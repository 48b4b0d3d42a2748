import RuleLexer.Regex.Lexeme

namespace RuleLexer

variable {ε α β : Type}

theorem ok_bind (value : α) (next : α → Except ε β) : (Except.ok value >>= next) = next value := rfl

theorem bind_eq_ok_iff {computed : Except ε α} {next : α → Except ε β} {result : β} :
    (computed >>= next) = .ok result ↔ ∃ value, computed = .ok value ∧ next value = .ok result := by
  cases computed <;> simp [bind, Except.bind]

theorem mapError_eq_ok_iff {δ : Type} {computed : Except ε α} {change : ε → δ} {result : α} :
    computed.mapError change = .ok result ↔ computed = .ok result := by
  cases computed <;> constructor <;> rintro ⟨⟩ <;> rfl

/-- Whatever the computation returns meets the condition. -/
def Ensures (computed : Except ε α) (condition : α → Prop) : Prop :=
  ∀ value, computed = .ok value → condition value

namespace Ensures

theorem ok {value : α} {condition : α → Prop} (holds : condition value) :
    Ensures (.ok value : Except ε α) condition := by
  rintro _ ⟨⟩
  exact holds

theorem error {failure : ε} {condition : α → Prop} :
    Ensures (.error failure : Except ε α) condition := nofun

theorem bind {computed : Except ε α} {next : α → Except ε β} {middle : α → Prop}
    {condition : β → Prop} (first : Ensures computed middle)
    (rest : ∀ value, middle value → Ensures (next value) condition) :
    Ensures (computed >>= next) condition := by
  cases computed with
  | error failure => exact error
  | ok value => exact rest value (first value rfl)

theorem branch {test : Prop} [Decidable test] {one other : Except ε α} {next : α → Except ε β}
    {middle : α → Prop} {condition : β → Prop}
    (first : Ensures (if test then one else other) middle)
    (rest : ∀ value, middle value → Ensures (next value) condition) :
    Ensures (if test then one >>= next else other >>= next) condition := by
  have same : (if test then one >>= next else other >>= next) =
      (if test then one else other) >>= next := by
    split <;> rfl
  rw [same]
  exact first.bind rest

theorem mono {computed : Except ε α} {condition weaker : α → Prop}
    (strong : Ensures computed condition) (weaken : ∀ value, condition value → weaker value) :
    Ensures computed weaker :=
  fun value returned => weaken value (strong value returned)

theorem trivial (computed : Except ε α) : Ensures computed fun _ => True := fun _ _ => .intro

end Ensures

/-- The piece opens neither a group nor a set, and does not escape what follows. -/
def Piece.isMute : Piece → Bool
  | .plain c => c != '(' && c != '[' && c != '\\'
  | .escaped _ => true
  | .dangling => false

theorem Piece.isMute_plain {c : Char} :
    (Piece.plain c).isMute = true ↔ c ≠ '(' ∧ c ≠ '[' ∧ c ≠ '\\' := by
  simp [isMute, and_assoc]

theorem Piece.head?_of_text {pieces : List Piece} (some : pieces ≠ []) {rest : List Char} {c : Char}
    (backslash : c ≠ '\\') (head : (pieces.flatMap text ++ rest).head? = .some c) :
    pieces.head? = .some (.plain c) := by
  obtain ⟨piece, pieces, rfl⟩ := List.exists_cons_of_ne_nil some
  cases piece with
  | plain d =>
    cases head
    rfl
  | escaped d =>
    cases head
    exact absurd rfl backslash
  | dangling =>
    cases head
    exact absurd rfl backslash

namespace Input

def text (input : Input) : List Char :=
  input.rest.flatMap Piece.text

theorem text_eq {input after : Input} {front : List Piece}
    (split : input.rest = front ++ after.rest) :
    input.text = front.flatMap Piece.text ++ after.text := by
  rw [text, split, List.flatMap_append]
  rfl

theorem head?_of_text {input : Input} {c : Char} (backslash : c ≠ '\\')
    (head : input.text.head? = some c) : input.rest.head? = some (.plain c) := by
  have some : input.rest ≠ [] := by
    intro none
    rw [text, none] at head
    cases head
  rw [text, ← List.append_nil (input.rest.flatMap Piece.text)] at head
  exact Piece.head?_of_text some backslash head

def Leaves (input after : Input) : Prop :=
  after.rest <:+ input.rest

theorem Leaves.refl (input : Input) : input.Leaves input := List.suffix_rfl

theorem Leaves.trans {input middle after : Input} (first : input.Leaves middle)
    (second : middle.Leaves after) : input.Leaves after :=
  List.IsSuffix.trans second first

theorem Leaves.text {input after : Input} (leaves : input.Leaves after) :
    after.text <:+ input.text := by
  obtain ⟨taken, split⟩ := leaves
  exact ⟨taken.flatMap Piece.text, (text_eq split.symm).symm⟩

theorem Leaves.length_le {input after : Input} (leaves : input.Leaves after) :
    after.rest.length ≤ input.rest.length :=
  List.IsSuffix.length_le leaves

def Passes (kind : Piece → Bool) (input after : Input) : Prop :=
  ∃ taken, input.rest = taken ++ after.rest ∧ ∀ piece ∈ taken, kind piece = true

abbrev Skips (input after : Input) : Prop :=
  Passes Piece.isMute input after

namespace Passes

variable {kind : Piece → Bool} {input middle after : Input}

theorem refl (input : Input) : Passes kind input input := ⟨[], rfl, nofun⟩

theorem trans (first : Passes kind input middle) (second : Passes kind middle after) :
    Passes kind input after := by
  obtain ⟨front, split, own⟩ := first
  obtain ⟨back, split', own'⟩ := second
  refine ⟨front ++ back, by rw [split, split', List.append_assoc], fun piece member => ?_⟩
  exact (List.mem_append.mp member).elim (own piece) (own' piece)

theorem leaves (passes : Passes kind input after) : input.Leaves after := by
  obtain ⟨taken, split, -⟩ := passes
  exact ⟨taken, split.symm⟩

theorem one {piece : Piece} (head : input.rest = piece :: after.rest) (own : kind piece = true) :
    Passes kind input after :=
  ⟨[piece], head, by simpa using own⟩

theorem mono {wider : Piece → Bool} (passes : Passes kind input after)
    (widen : ∀ piece, kind piece = true → wider piece = true) : Passes wider input after := by
  obtain ⟨taken, split, own⟩ := passes
  exact ⟨taken, split, fun piece member => widen piece (own piece member)⟩

end Passes

theorem goTo_rest (position : Nat) (rest : List Piece) :
    Ensures (goTo position rest) fun input => input.rest = rest := by
  unfold goTo
  split
  · exact .error
  · exact .ok rfl

def Takes (input : Input) (piece? : Option Piece) (after : Input) : Prop :=
  match piece? with
  | some piece => input.rest = piece :: after.rest
  | none => after = input

theorem text_of_ofSource {source : List Char} {input : Input} (read : ofSource source = .ok input) :
    input.text = source := by
  rw [text, goTo_rest 0 _ input read, Piece.flatMap_text_split]

theorem take_takes (input : Input) :
    Ensures input.take fun (piece?, after) => input.Takes piece? after := by
  unfold take
  split
  · exact .ok rfl
  · next rest head =>
    exact (goTo_rest _ rest).bind fun after same => .ok (by simp [Takes, head, same])

theorem accept_accepts (c : Char) (input : Input) :
    Ensures (input.accept c) fun (accepted, after) =>
      if accepted then input.rest = .plain c :: after.rest
      else after = input ∧ input.rest.head? ≠ some (.plain c) := by
  unfold accept
  split
  · next d rest head =>
    split
    · next same =>
      exact (goTo_rest _ rest).bind fun after left => .ok (by simp [head, left, same])
    · next other => exact .ok ⟨rfl, by simp [head, other]⟩
  · next other =>
    refine .ok ⟨rfl, fun head => ?_⟩
    obtain ⟨rest, whole⟩ := List.head?_eq_some_iff.mp head
    exact other c rest whole

theorem accept_leaves (c : Char) (input : Input) :
    Ensures (input.accept c) fun (_, after) => input.Leaves after := by
  refine (accept_accepts c input).mono fun (accepted, after) accepts => ?_
  cases accepted with
  | true => exact ⟨[.plain c], accepts.symm⟩
  | false => exact accepts.1 ▸ .refl input

theorem accept_passes {kind : Piece → Bool} {c : Char} (own : kind (.plain c) = true)
    (input : Input) : Ensures (input.accept c) fun (_, after) => Passes kind input after := by
  refine (accept_accepts c input).mono fun (accepted, after) accepts => ?_
  cases accepted with
  | true => exact .one accepts own
  | false =>
    obtain ⟨rfl, -⟩ := accepts
    exact .refl after

theorem accept_skips {c : Char} (mute : (Piece.plain c).isMute = true) (input : Input) :
    Ensures (input.accept c) fun (_, after) => input.Skips after :=
  accept_passes mute input

theorem takeSome_passes {kind : Char → Bool} {wider : Piece → Bool}
    (widen : ∀ c, kind c = true → wider (.plain c) = true) (count : Nat) (input : Input) :
    Ensures (input.takeSome kind count) fun (_, after) => Passes wider input after := by
  induction count generalizing input with
  | zero => exact .ok (.refl input)
  | succ count ih =>
    unfold takeSome
    split
    · next c rest head =>
      split
      · next own =>
        refine (goTo_rest _ rest).bind fun middle same => (ih middle).bind ?_
        have first : Passes wider input middle := .one (by rw [head, same]) (widen c own)
        exact fun after second => .ok (first.trans second)
      · exact .ok (.refl input)
    · exact .ok (.refl input)

/-- The text up to a terminator is that of the pieces before the first that is the terminator. -/
theorem readUntil_reads (terminator : Char) (what : String) (taken : List Char) (position : Nat)
    (rest : List Piece) : Ensures (readUntil terminator what taken position rest)
      fun (text, after) => ∃ pieces, rest = pieces ++ .plain terminator :: after.rest ∧
        .plain terminator ∉ pieces ∧ text = taken ++ pieces.flatMap Piece.text ∧ text ≠ [] := by
  induction rest generalizing taken position with
  | nil =>
    unfold readUntil
    split <;> exact .error
  | cons piece rest ih =>
    unfold readUntil
    refine (goTo_rest _ rest).bind fun after same => ?_
    split
    · next last =>
      split
      · exact .error
      · next nonempty =>
        exact .ok ⟨[], by rw [last, same]; rfl, nofun, by simp, by simpa using nonempty⟩
    · next other =>
      refine (ih _ _).mono fun (text, after) ⟨pieces, split, absent, whole, nonempty⟩ => ?_
      refine ⟨piece :: pieces, by rw [split]; rfl, ?_, by simp [whole], nonempty⟩
      simp [Ne.symm other, absent]

theorem takeUntil_reads (terminator : Char) (what : String) (input : Input) :
    Ensures (input.takeUntil terminator what) fun (text, after) => ∃ pieces,
      input.rest = pieces ++ .plain terminator :: after.rest ∧ .plain terminator ∉ pieces ∧
        text = pieces.flatMap Piece.text ∧ text ≠ [] :=
  readUntil_reads terminator what [] input.position input.rest

theorem readUntil_plain {terminator : Char} {what : String} {taken : List Char} {position : Nat}
    {pieces : List Piece} : Ensures (readUntil terminator what taken position pieces)
      fun (name, after) => '\\' ∉ name → ∃ cs, name = taken ++ cs ∧ terminator ∉ cs ∧
        pieces = cs.map .plain ++ .plain terminator :: after.rest := by
  induction pieces generalizing taken position with
  | nil =>
    unfold readUntil
    split <;> exact .error
  | cons piece pieces ih =>
    unfold readUntil
    refine (goTo_rest _ pieces).bind fun after same => ?_
    split
    · next last =>
      split
      · exact .error
      · exact .ok fun _ => ⟨[], by simp, by simp, by simp [last, same]⟩
    · next other =>
      refine ih.mono ?_
      rintro ⟨name, after⟩ read plain
      obtain ⟨cs, rfl, absent, rfl⟩ := read plain
      cases piece with
      | plain c =>
        refine ⟨c :: cs, by simp [Piece.text], ?_, rfl⟩
        have different : terminator ≠ c := fun same => other (by rw [same])
        simp [different, absent]
      | escaped c => simp [Piece.text] at plain
      | dangling => simp [Piece.text] at plain

theorem skipPast_reads (last : Char) (position : Nat) (rest : List Piece) :
    Ensures (skipPast last position rest) fun (found, after) =>
      if found then ∃ pieces, rest = pieces ++ .plain last :: after.rest ∧ .plain last ∉ pieces
      else after.rest = [] := by
  induction rest generalizing position with
  | nil => exact .ok rfl
  | cons piece rest ih =>
    unfold skipPast
    refine (goTo_rest _ rest).bind fun after same => ?_
    split
    · next here => exact .ok ⟨[], by rw [here, same]; rfl, nofun⟩
    · next other =>
      refine (ih _).mono fun (found, after) reads => ?_
      cases found with
      | false => exact reads
      | true =>
        obtain ⟨pieces, split, absent⟩ := reads
        exact ⟨piece :: pieces, by rw [split]; rfl, by simp [Ne.symm other, absent]⟩

theorem skipPast_missing (last : Char) (position : Nat) (rest : List Piece) :
    Ensures (skipPast last position rest) fun (found, _) => found = false → .plain last ∉ rest := by
  induction rest generalizing position with
  | nil => exact .ok fun _ => List.not_mem_nil
  | cons piece rest ih =>
    unfold skipPast
    refine (Ensures.trivial _).bind fun after _ => ?_
    split
    · exact .ok nofun
    · next other =>
      refine (ih _).mono fun _ missing none => ?_
      exact List.not_mem_cons_of_ne_of_not_mem (Ne.symm other) (missing none)

theorem skipPast_leaves (last : Char) (position : Nat) (rest : List Piece) :
    Ensures (skipPast last position rest) fun (_, after) => after.rest <:+ rest := by
  refine (skipPast_reads last position rest).mono fun (found, after) reads => ?_
  cases found with
  | false =>
    have ended : after.rest = [] := reads
    show after.rest <:+ rest
    exact ended ▸ List.nil_suffix
  | true =>
    obtain ⟨pieces, split, -⟩ := reads
    exact ⟨pieces ++ [.plain last], by rw [split]; simp⟩

end Input

namespace Escape

/-- An escape may go on with the piece: a digit of a number, or a name and its braces. -/
def isTailPiece : Piece → Bool
  | .plain c => Text.isNameChar c || c == '\x7b' || c == '\x7d'
  | _ => false

theorem isMute_of_isTailPiece (piece : Piece) (tail : isTailPiece piece = true) :
    piece.isMute = true := by
  cases piece with
  | plain c =>
    refine Piece.isMute_plain.mpr ⟨?_, ?_, ?_⟩ <;>
    · rintro rfl
      cases tail
  | _ => cases tail

theorem isTailPiece_of_isNameChar {c : Char} (own : Text.isNameChar c = true) :
    isTailPiece (.plain c) = true := by
  simp [isTailPiece, own]

theorem isNameChar_of_isHex {c : Char} (hex : isHex c = true) : Text.isNameChar c = true := by
  simp only [isHex, Bool.or_eq_true, Bool.and_eq_true, decide_eq_true_eq, Char.le_def] at hex
  have alphanumeric : c.isAlphanum = true := by
    rcases hex with (digit | ⟨low, high⟩) | ⟨low, high⟩
    · exact Bool.or_eq_true_iff.mpr (.inr digit)
    · have lower : c.isLower = true := Bool.and_eq_true_iff.mpr
        ⟨decide_eq_true low, decide_eq_true (Nat.le_trans high (by decide))⟩
      exact Bool.or_eq_true_iff.mpr (.inl (Bool.or_eq_true_iff.mpr (.inr lower)))
    · have upper : c.isUpper = true :=
        decide_eq_true ⟨low, Nat.le_trans high (by decide)⟩
      exact Bool.or_eq_true_iff.mpr (.inl (Bool.or_eq_true_iff.mpr (.inl upper)))
  simp [Text.isNameChar, alphanumeric]

theorem isHex_of_isDigit {c : Char} (digit : c.isDigit = true) : isHex c = true := by
  simp [isHex, digit]

theorem isDigit_of_isOctal {c : Char} (octal : isOctal c = true) : c.isDigit = true := by
  have bounds : '0' ≤ c ∧ c ≤ '7' := by simpa [isOctal] using octal
  have high : c.val ≤ 55 := bounds.2
  have low : (48 : UInt32) ≤ c.val := bounds.1
  simp only [Char.isDigit, Bool.and_eq_true, decide_eq_true_eq]
  exact ⟨low, Nat.le_trans high (by decide)⟩

theorem isHex_of_isOctal {c : Char} (octal : isOctal c = true) : isHex c = true :=
  isHex_of_isDigit (isDigit_of_isOctal octal)

theorem takeSome_hex {kind : Char → Bool} (hex : ∀ c, kind c = true → isHex c = true) (count : Nat)
    (input : Input) :
    Ensures (input.takeSome kind count) fun (_, after) => Input.Passes isTailPiece input after :=
  input.takeSome_passes (fun c own => isTailPiece_of_isNameChar (isNameChar_of_isHex (hex c own))) count

theorem readHex_passes (letter : Char) (count start : Nat) (input : Input) :
    Ensures (readHex letter count start input) fun (_, after) =>
      Input.Passes isTailPiece input after := by
  refine (takeSome_hex (fun _ => id) count input).bind fun (digits, after) left => ?_
  dsimp only
  split
  · exact .error
  · split
    · exact .error
    · exact .ok left

theorem readName_reads (start : Nat) (input : Input) :
    Ensures (readName start input) fun (_, after) => ∃ name : List Char,
      (∀ c ∈ name, Text.isNameChar c = true) ∧
        input.rest = .plain '\x7b' :: (name.map .plain ++ .plain '\x7d' :: after.rest) := by
  refine (input.accept_accepts '\x7b').bind fun (braced, middle) opened => ?_
  cases braced with
  | false => exact .error
  | true =>
    have opened : input.rest = .plain '\x7b' :: middle.rest := opened
    rintro ⟨code, after⟩ returned
    obtain ⟨⟨name, last⟩, read, later⟩ := bind_eq_ok_iff.mp returned
    cases known : Text.named? name with
    | none => simp [known] at later
    | some found =>
      simp only [known, Except.ok.injEq, Prod.mk.injEq] at later
      obtain ⟨rfl, rfl⟩ := later
      have own := Text.isNameChar_of_named? known
      obtain ⟨_, rfl, -, split⟩ :=
        Input.readUntil_plain _ read fun member => absurd (own _ member) (by decide)
      exact ⟨_, own, by rw [opened, split]⟩

theorem readName_passes (start : Nat) (input : Input) :
    Ensures (readName start input) fun (_, after) => Input.Passes isTailPiece input after := by
  refine (readName_reads start input).mono fun (_, after) ⟨name, own, split⟩ => ?_
  refine ⟨.plain '\x7b' :: (name.map .plain ++ [.plain '\x7d']), by simp [split], ?_⟩
  intro piece member
  simp only [List.mem_cons, List.mem_append, List.mem_map, List.not_mem_nil, or_false] at member
  rcases member with rfl | ⟨c, member, rfl⟩ | rfl
  · rfl
  · exact isTailPiece_of_isNameChar (own c member)
  · rfl

theorem readCode?_eq (alphabet : Alphabet) (letter : Char) :
    (∃ count, ∀ start input,
      readCode? alphabet letter start input = some <$> readHex letter count start input) ∨
    (∀ start input, readCode? alphabet letter start input = some <$> readName start input) ∨
    ∀ start input, readCode? alphabet letter start input = .ok none := by
  by_cases x : letter = 'x'
  · subst x
    exact .inl ⟨2, fun _ _ => rfl⟩
  cases alphabet with
  | bytes =>
    refine .inr (.inr fun start input => ?_)
    unfold readCode?
    split <;> simp_all
  | text =>
    by_cases u : letter = 'u'
    · subst u
      exact .inl ⟨4, fun _ _ => rfl⟩
    by_cases long : letter = 'U'
    · subst long
      exact .inl ⟨8, fun _ _ => rfl⟩
    by_cases name : letter = 'N'
    · subst name
      exact .inr (.inl fun _ _ => rfl)
    · refine .inr (.inr fun start input => ?_)
      unfold readCode?
      split <;> simp_all

theorem readCode?_passes (alphabet : Alphabet) (letter : Char) (start : Nat) (input : Input) :
    Ensures (readCode? alphabet letter start input) fun read? =>
      ∀ code after, read? = some (code, after) → Input.Passes isTailPiece input after := by
  have given {read : Except Rejection (Nat × Input)}
      (passes : Ensures read fun (_, after) => Input.Passes isTailPiece input after) :
      Ensures (some <$> read) fun read? =>
        ∀ code after, read? = some (code, after) → Input.Passes isTailPiece input after := by
    cases read with
    | error failure => exact .error
    | ok found =>
      refine .ok ?_
      rintro code after ⟨⟩
      exact passes _ rfl
  rcases readCode?_eq alphabet letter with ⟨count, hex⟩ | named | absent
  · rw [hex]
    exact given (readHex_passes letter count start input)
  · rw [named]
    exact given (readName_passes start input)
  · rw [absent]
    exact .ok nofun

theorem readInSet_passes (alphabet : Alphabet) (c : Char) (start : Nat) (input : Input) :
    Ensures (readInSet alphabet c start input) fun (_, after) =>
      Input.Passes isTailPiece input after := by
  unfold readInSet
  split
  · exact .ok (.refl input)
  split
  · exact .ok (.refl input)
  split
  · exact .ok (.refl input)
  refine (readCode?_passes alphabet c start input).bind fun read? left => ?_
  split
  · exact .ok (left _ _ rfl)
  split
  · refine (takeSome_hex (fun _ => isHex_of_isOctal) 2 input).bind fun (digits, after) left => ?_
    exact (Ensures.trivial _).bind fun _ _ => .ok left
  · exact (Ensures.trivial _).bind fun _ _ => .ok (.refl input)

def Meaning.Groupless : Meaning → Prop
  | .item regex => regex.groupCount = 0
  | .reference _ => True

theorem readNumber_passes (c : Char) (start : Nat) (input : Input) :
    Ensures (readNumber c start input) fun (meaning, after) =>
      meaning.Groupless ∧ Input.Passes isTailPiece input after := by
  refine (takeSome_hex (fun _ => isHex_of_isDigit) 1 input).bind fun (second, middle) first => ?_
  dsimp only
  split
  · next d =>
    have third : Ensures (if isOctal c && isOctal d then middle.takeSome isOctal 1
        else .ok ([], middle)) fun (_, after) => Input.Passes isTailPiece middle after := by
      split
      · exact takeSome_hex (fun _ => isHex_of_isOctal) 1 middle
      · exact .ok (.refl middle)
    refine third.branch fun (third, after) second => ?_
    dsimp only
    split
    · exact .ok ⟨.intro, first⟩
    · exact (Ensures.trivial _).bind fun _ _ => .ok ⟨rfl, first.trans second⟩
  · exact .ok ⟨.intro, first⟩

theorem readOutside_passes (alphabet : Alphabet) (c : Char) (start : Nat) (input : Input) :
    Ensures (readOutside alphabet c start input) fun (meaning, after) =>
      meaning.Groupless ∧ Input.Passes isTailPiece input after := by
  unfold readOutside
  split
  · exact .ok ⟨rfl, .refl input⟩
  split
  · exact .ok ⟨rfl, .refl input⟩
  split
  · exact .ok ⟨rfl, .refl input⟩
  refine (readCode?_passes alphabet c start input).bind fun read? left => ?_
  split
  · exact .ok ⟨rfl, left _ _ rfl⟩
  split
  · refine (takeSome_hex (fun _ => isHex_of_isOctal) 2 input).bind fun (digits, after) left => ?_
    exact .ok ⟨rfl, left⟩
  split
  · exact readNumber_passes c start input
  · exact (Ensures.trivial _).bind fun _ _ => .ok ⟨rfl, .refl input⟩

end Escape

namespace SetItem

theorem readMember_passes (alphabet : Alphabet) (start : Nat) (piece : Piece) (input : Input) :
    Ensures (readMember alphabet start piece input) fun (_, after) =>
      piece ≠ .dangling ∧ Input.Passes Escape.isTailPiece input after := by
  cases piece with
  | plain c => exact .ok ⟨nofun, .refl input⟩
  | escaped c =>
    exact (Escape.readInSet_passes alphabet c start input).mono fun _ left => ⟨nofun, left⟩
  | dangling => exact .error

theorem readMember_leaves (alphabet : Alphabet) (start : Nat) (piece : Piece) (input : Input) :
    Ensures (readMember alphabet start piece input) fun (_, after) => input.Leaves after :=
  (readMember_passes alphabet start piece input).mono fun _ left => left.2.leaves

/-- The members of a set and its closing bracket have been read. A bracket that comes first is a
member. -/
def Closes (first : Bool) (input after : Input) : Prop :=
  ∃ members, input.rest = members ++ .plain ']' :: after.rest ∧
    (∀ piece ∈ if first then members.tail else members, piece ≠ .plain ']') ∧
    (first → members ≠ [])

theorem Closes.leaves {first : Bool} {input after : Input} (closes : Closes first input after) :
    input.Leaves after := by
  obtain ⟨members, split, -⟩ := closes
  exact ⟨members ++ [.plain ']'], by rw [split]; simp⟩

theorem Closes.cons {first : Bool} {input middle after : Input} {piece : Piece} {taken : List Piece}
    (split : input.rest = piece :: (taken ++ middle.rest))
    (bracket : first = true ∨ piece ≠ .plain ']') (others : ∀ other ∈ taken, other ≠ .plain ']')
    (rest : Closes false middle after) : Closes first input after := by
  obtain ⟨members, split', absent, -⟩ := rest
  refine ⟨piece :: (taken ++ members), by rw [split, split']; simp, ?_, fun _ => nofun⟩
  have inside : ∀ other ∈ taken ++ members, other ≠ .plain ']' := fun other member =>
    (List.mem_append.mp member).elim (others other) (absent other)
  cases first with
  | true => exact inside
  | false =>
    have other := bracket.resolve_left Bool.false_ne_true
    intro piece' member
    rcases List.mem_cons.mp member with rfl | later
    · exact other
    · exact inside piece' later

theorem bracketless_of_passes {input after : Input}
    (passes : Input.Passes Escape.isTailPiece input after) :
    ∃ taken, input.rest = taken ++ after.rest ∧ ∀ piece ∈ taken, piece ≠ .plain ']' := by
  obtain ⟨taken, split, hex⟩ := passes
  refine ⟨taken, split, fun piece member => ?_⟩
  rintro rfl
  cases hex _ member

theorem readAll_closes (alphabet : Alphabet) (start fuel : Nat) (items : List SetItem)
    (input : Input) : Ensures (readAll alphabet start fuel items input)
      fun (_, after) => Closes items.isEmpty input after := by
  -- Only a bracket that comes first is a member; any other one ends the set.
  induction fuel generalizing items input with
  | zero => exact .error
  | succ fuel ih =>
    unfold readAll
    refine input.take_takes.bind fun (piece?, opened) atFirst => ?_
    cases piece? with
    | none => exact .error
    | some piece =>
      dsimp only
      split
      · next closing =>
        obtain ⟨bracket, more⟩ := Bool.and_eq_true_iff.mp closing
        refine .ok ⟨[], ?_, by cases items.isEmpty <;> exact nofun, ?_⟩
        · rw [atFirst, of_decide_eq_true bracket]
          rfl
        · intro none
          rw [none] at more
          cases more
      next continuing =>
      have bracket : items.isEmpty = true ∨ piece ≠ .plain ']' := by
        by_cases same : piece = .plain ']'
        · exact .inl (by simpa [same] using continuing)
        · exact .inr same
      refine (readMember_passes alphabet _ piece opened).bind fun (low, lower) ⟨_, atLow⟩ => ?_
      obtain ⟨members, low', others⟩ := bracketless_of_passes atLow
      refine (lower.accept_accepts '-').bind fun (dash, dashed) atDash => ?_
      cases dash with
      | false =>
        obtain ⟨rfl, -⟩ := atDash
        refine (ih _ dashed).mono fun (_, after) rest => ?_
        exact .cons (by rw [atFirst, low']) bracket others rest
      | true =>
        have atDash : lower.rest = .plain '-' :: dashed.rest := atDash
        simp only [Bool.not_true, Bool.false_eq_true, if_false]
        refine dashed.take_takes.bind fun (piece?, reopened) atSecond => ?_
        cases piece? with
        | none => exact .error
        | some highPiece =>
          have atSecond : dashed.rest = highPiece :: reopened.rest := atSecond
          have dashes : ∀ other ∈ members ++ [.plain '-'], other ≠ .plain ']' := fun other member =>
            (List.mem_append.mp member).elim (others other) fun last => by
              rw [List.mem_singleton.mp last]
              exact nofun
          dsimp only
          split
          · next closing =>
            have ends : Closes false dashed reopened :=
              ⟨[], by rw [atSecond, closing]; rfl, nofun, nofun⟩
            exact .ok (.cons (by rw [atFirst, low', atDash]; simp) bracket dashes ends)
          next inner =>
          refine (readMember_passes alphabet _ highPiece reopened).bind
            fun (high, upper) ⟨_, atHigh⟩ => ?_
          obtain ⟨members', high', others'⟩ := bracketless_of_passes atHigh
          refine (Ensures.trivial _).bind fun range _ => ?_
          refine (ih _ upper).mono fun (_, after) rest => ?_
          have onward : Closes false dashed after :=
            .cons (by rw [atSecond, high']) (.inr inner) others' rest
          exact .cons (by rw [atFirst, low', atDash]; simp) bracket dashes onward

end SetItem

namespace Lexeme

def Groupless : Lexeme → Prop
  | .item regex => regex.groupCount = 0
  | _ => True

def Inert : Lexeme → Prop
  | .opening _ | .globalFlags _ => False
  | _ => True

def Quiet : Lexeme → Prop
  | .opening (.capture _) => False
  | .opening (.scoped on _) | .globalFlags on => on.has .verbose = false
  | _ => True

theorem Inert.quiet {lexeme : Lexeme} (inert : lexeme.Inert) : lexeme.Quiet := by
  cases lexeme with
  | opening opening => cases inert
  | globalFlags on => cases inert
  | _ => exact .intro

theorem mute_of_isDigit {c : Char} (digit : c.isDigit = true) : (Piece.plain c).isMute = true :=
  Escape.isMute_of_isTailPiece _
    (Escape.isTailPiece_of_isNameChar (Escape.isNameChar_of_isHex (Escape.isHex_of_isDigit digit)))

theorem readBraces_skips (input : Input) : Ensures (readBraces input) fun (lexeme, after) =>
    lexeme.Groupless ∧ lexeme.Inert ∧ input.Skips after := by
  have digits (count : Nat) (input : Input) : Ensures (input.takeSome Char.isDigit count)
      fun (_, after) => input.Skips after :=
    input.takeSome_passes (fun _ => mute_of_isDigit) count
  unfold readBraces
  dsimp only
  split
  · exact .ok ⟨rfl, .intro, .refl input⟩
  refine (digits _ input).bind fun (low, lower) atLow => ?_
  refine (Input.accept_skips (c := ',') rfl lower).bind fun (comma, middle) atComma => ?_
  have upper : Ensures (if comma then middle.takeAll Char.isDigit else .ok (low, middle))
      fun (_, after) => middle.Skips after := by
    split
    · exact digits _ middle
    · exact .ok (.refl middle)
  refine upper.branch fun (high, upper) atHigh => ?_
  refine (Input.accept_skips (c := '}') rfl upper).bind fun (closed, after) atClose => ?_
  have left := ((atLow.trans atComma).trans atHigh).trans atClose
  dsimp only
  split
  · exact .ok ⟨rfl, .intro, .refl input⟩
  refine (Ensures.trivial _).bind fun least _ => ?_
  refine (Ensures.trivial _).bind fun most _ => ?_
  split
  · split
    · exact .error
    · exact .ok ⟨.intro, .intro, left⟩
  · exact .ok ⟨.intro, .intro, left⟩

theorem letter_of_flagOf? {piece : Piece} {flag : Flag} (found : flagOf? piece = some flag) :
    ∃ c, piece = .plain c ∧ Flag.ofLetter? c = some flag := by
  cases piece with
  | plain c => exact ⟨c, rfl, found⟩
  | _ => cases found

theorem mute_of_letter {c : Char} {flag : Flag} (letter : Flag.ofLetter? c = some flag) :
    (Piece.plain c).isMute = true := by
  refine Piece.isMute_plain.mpr ⟨?_, ?_, ?_⟩ <;>
  · rintro rfl
    cases letter

theorem letter_of_verbose {c : Char} (letter : Flag.ofLetter? c = some .verbose) : c = 'x' := by
  unfold Flag.ofLetter? at letter
  split at letter <;> simp_all

theorem has_insert {flags : Flags} {flag wanted : Flag} :
    (flags.insert flag).has wanted = true ↔ flags.has wanted = true ∨ flag = wanted := by
  have bit : (1 <<< flag.bit).testBit wanted.bit = decide (flag.bit = wanted.bit) := by
    rw [Nat.one_shiftLeft, Nat.testBit_two_pow]
  simp only [Flags.has, Flags.insert, Nat.testBit_or, Bool.or_eq_true, bit, decide_eq_true_eq]
  refine or_congr_right ⟨fun same => ?_, congrArg Flag.bit⟩
  cases flag <;> cases wanted <;> first | rfl | cases same

theorem has_insert_verbose {flags : Flags} {flag : Flag} (before : flags.has .verbose = false)
    (other : flag ≠ .verbose) : (flags.insert flag).has .verbose = false := by
  refine Bool.eq_false_iff.mpr fun has => ?_
  rcases has_insert.mp has with already | same
  · cases before.symm.trans already
  · exact other same

/-- Letters of flags and the character that ends them have been read, which follows no escape. The
flags are those of the letters, and in a pattern for texts the locale flag is not among them. -/
theorem readFlagsOn_reads (alphabet : Alphabet) (fuel : Nat) (flag : Flag) (flags : Flags)
    (input : Input) : Ensures (readFlagsOn alphabet fuel flag flags input)
      fun (on, stop, after) => ∃ letters : List Char,
        input.rest = letters.map .plain ++ .plain stop :: after.rest ∧
        (∀ c ∈ letters, (Flag.ofLetter? c).isSome = true) ∧
        (Piece.plain stop).isMute = true ∧
        (∀ wanted, on.has wanted = true → flags.has wanted = true ∨ flag = wanted ∨
          ∃ c ∈ letters, Flag.ofLetter? c = some wanted) ∧
        (alphabet = .text → on.has .locale = true → flags.has .locale = true) := by
  induction fuel generalizing flag flags input with
  | zero => exact .error
  | succ fuel ih =>
    unfold readFlagsOn
    dsimp only
    split
    · exact .error
    next foreign =>
    have noLocale : alphabet = .text → (flags.insert flag).has .locale = true →
        flags.has .locale = true := fun text has =>
      (has_insert.mp has).resolve_right fun same => foreign (by simp [same, text])
    split
    · exact .error
    split
    · exact .error
    refine input.take_takes.bind fun (piece?, middle) takes => ?_
    cases piece? with
    | none => exact .error
    | some piece =>
      have takes : input.rest = piece :: middle.rest := takes
      -- Where the letters end, those that were read are the ones that the flags come from.
      have ended (stop : Char) (same : piece = .plain stop)
          (mute : (Piece.plain stop).isMute = true) : ∃ letters : List Char,
          input.rest = letters.map .plain ++ .plain stop :: middle.rest ∧
          (∀ c ∈ letters, (Flag.ofLetter? c).isSome = true) ∧
          (Piece.plain stop).isMute = true ∧
          (∀ wanted, (flags.insert flag).has wanted = true → flags.has wanted = true ∨
            flag = wanted ∨ ∃ c ∈ letters, Flag.ofLetter? c = some wanted) ∧
          (alphabet = .text → (flags.insert flag).has .locale = true →
            flags.has .locale = true) :=
        ⟨[], by rw [takes, same]; rfl, nofun, mute,
          fun wanted has => (has_insert.mp has).imp_right .inl, noLocale⟩
      dsimp only
      split
      · exact .ok (ended ')' rfl rfl)
      · exact .ok (ended '-' rfl rfl)
      · exact .ok (ended ':' rfl rfl)
      · split
        · next found =>
          obtain ⟨c, rfl, letter⟩ := letter_of_flagOf? found
          refine (ih _ _ middle).mono
            fun (on, stop, after) ⟨letters, split, all, mute, turned, textual⟩ => ?_
          refine ⟨c :: letters, by rw [takes, split]; rfl, ?_, mute, fun wanted has => ?_,
            fun text has => noLocale text (textual text has)⟩
          · intro d member
            rcases List.mem_cons.mp member with rfl | later
            · rw [letter]
              rfl
            · exact all d later
          · rcases turned wanted has with before | rfl | ⟨d, later, same⟩
            · exact (has_insert.mp before).imp_right .inl
            · exact .inr (.inr ⟨c, List.mem_cons_self, letter⟩)
            · exact .inr (.inr ⟨d, List.mem_cons_of_mem c later, same⟩)
        · exact .error

theorem readFlagsOff_skips (fuel : Nat) (flag : Flag) (flags : Flags) (input : Input) :
    Ensures (readFlagsOff fuel flag flags input) fun (_, after) => input.Skips after := by
  induction fuel generalizing flag flags input with
  | zero => exact .error
  | succ fuel ih =>
    unfold readFlagsOff
    dsimp only
    split
    · exact .error
    refine input.take_takes.bind fun (piece?, middle) takes => ?_
    cases piece? with
    | none => exact .error
    | some piece =>
      dsimp only
      split
      · next same => exact .ok (.one (same ▸ takes) rfl)
      · split
        · next found =>
          obtain ⟨c, rfl, letter⟩ := letter_of_flagOf? found
          have first : input.Skips middle := .one takes (mute_of_letter letter)
          exact (ih _ _ middle).mono fun (_, after) left => first.trans left
        · exact .error

theorem readOff_skips (input : Input) :
    Ensures (readOff input) fun (_, after) => input.Skips after := by
  refine input.take_takes.bind fun (piece?, middle) takes => ?_
  cases piece? with
  | none => exact .error
  | some piece =>
    dsimp only
    split
    · next found =>
      obtain ⟨c, rfl, letter⟩ := letter_of_flagOf? found
      have first : input.Skips middle := .one takes (mute_of_letter letter)
      exact (readFlagsOff_skips _ _ _ middle).mono fun (_, after) left => first.trans left
    · exact .error

def flagsOn (alphabet : Alphabet) (input : Input) :
    Option Flag → Except Rejection (Flags × Char × Input)
  | some flag => readFlagsOn alphabet (input.rest.length + 1) flag .none input
  | none => .ok (.none, '-', input)

def flagGroup (on : Flags) (stop : Char) (input : Input) : Except Rejection (Lexeme × Input) := do
  if stop = ')' then return (.globalFlags on, input)
  if on.has .template || on.has .debug then
    throw (Fault.globalFlagOn.at (input.position - 1))
  if stop = '-' then
    let (off, input) ← readOff input
    scopedFlags on off input
  else scopedFlags on .none input

theorem readFlags_eq (alphabet : Alphabet) (flag? : Option Flag) (input : Input) :
    readFlags alphabet flag? input =
      flagsOn alphabet input flag? >>= fun (on, stop, after) => flagGroup on stop after := by
  cases flag? <;> rfl

def TurnsOn (on : Flags) (stop : Char) (lexeme : Lexeme) : Prop :=
  stop = ')' ∧ lexeme = .globalFlags on ∨ ∃ off, lexeme = .opening (.scoped on off)

theorem scopedFlags_scopes (on off : Flags) (input : Input) :
    Ensures (scopedFlags on off input) fun (lexeme, after) =>
      (∃ off, lexeme = .opening (.scoped on off)) ∧ after = input := by
  unfold scopedFlags
  split
  · exact .error
  split
  · exact .error
  · exact .ok ⟨⟨off, rfl⟩, rfl⟩

theorem flagGroup_skips (on : Flags) (stop : Char) (input : Input) :
    Ensures (flagGroup on stop input) fun (lexeme, after) =>
      TurnsOn on stop lexeme ∧ input.Skips after := by
  have here (off : Flags) (input : Input) : Ensures (scopedFlags on off input)
      fun (lexeme, after) => TurnsOn on stop lexeme ∧ input.Skips after := by
    refine (scopedFlags_scopes on off input).mono fun _ ⟨scopes, same⟩ => ⟨.inr scopes, ?_⟩
    rw [same]
    exact .refl _
  unfold flagGroup
  dsimp only
  split
  · next closing => exact .ok ⟨.inl ⟨closing, rfl⟩, .refl input⟩
  split
  · exact .error
  split
  · refine (readOff_skips input).bind fun (off, middle) first => ?_
    exact (here off middle).mono fun (_, after) left => ⟨left.1, first.trans left.2⟩
  · exact here .none input

/-- What may follow an opening parenthesis, up to the end of the lexeme. -/
inductive Opens (alphabet : Alphabet) (input : Input) : Lexeme → Input → Prop
  | group (simple : input.rest.head? ≠ some (.plain '?')) :
    Opens alphabet input (.opening (.capture none)) input
  | named {pieces : List Piece} {after : Input}
    (split : input.rest = .plain '?' :: .plain 'P' :: .plain '<' ::
      (pieces ++ .plain '>' :: after.rest))
    (identifier : Text.isIdentifier (pieces.flatMap Piece.text) = true) :
    Opens alphabet input (.opening (.capture (some (pieces.flatMap Piece.text)))) after
  | reference {pieces : List Piece} {after : Input}
    (split : input.rest = .plain '?' :: .plain 'P' :: .plain '=' ::
      (pieces ++ .plain ')' :: after.rest))
    (identifier : Text.isIdentifier (pieces.flatMap Piece.text) = true) :
    Opens alphabet input (.namedReference (pieces.flatMap Piece.text)) after
  | comment {pieces : List Piece} {after : Input}
    (split : input.rest = .plain '?' :: .plain '#' :: (pieces ++ .plain ')' :: after.rest))
    (absent : .plain ')' ∉ pieces) : Opens alphabet input .blank after
  | condition {pieces : List Piece} {after : Input}
    (split : input.rest = .plain '?' :: .plain '(' :: (pieces ++ .plain ')' :: after.rest))
    (nonempty : pieces.flatMap Piece.text ≠ []) :
    Opens alphabet input (.opening (.condition (pieces.flatMap Piece.text))) after
  | kind {opening : Opening} {c : Char} {middle after : Input}
    (split : input.rest = .plain '?' :: .plain c :: middle.rest)
    (other : c ≠ '#' ∧ c ≠ '(' ∧ c ≠ 'P') (mute : (Piece.plain c).isMute = true)
    (quiet : (Lexeme.opening opening).Quiet) (skips : middle.Skips after) :
    Opens alphabet input (.opening opening) after
  | flags {lexeme : Lexeme} {on : Flags} (letters : List Char) {stop : Char} {middle after : Input}
    (split : input.rest = .plain '?' :: (letters.map .plain ++ .plain stop :: middle.rest))
    (all : ∀ c ∈ letters, (Flag.ofLetter? c).isSome = true)
    (mute : (Piece.plain stop).isMute = true) (some : letters = [] → stop = '-')
    (turned : ∀ flag, on.has flag = true → ∃ c ∈ letters, Flag.ofLetter? c = .some flag)
    (textual : alphabet = .text → on.has .locale = false) (turns : TurnsOn on stop lexeme)
    (skips : middle.Skips after) : Opens alphabet input lexeme after

theorem readFlags_opens (alphabet : Alphabet) {input opened : Input}
    (first : input.rest = .plain '?' :: .plain '-' :: opened.rest) :
    Ensures (readFlags alphabet none opened) fun (lexeme, after) =>
      Opens alphabet input lexeme after := by
  rw [readFlags_eq]
  refine (flagGroup_skips .none '-' opened).mono fun (lexeme, after) ⟨turns, skips⟩ => ?_
  have none (flag : Flag) : Flags.none.has flag = false := by cases flag <;> rfl
  refine .flags [] first nofun rfl (fun _ => rfl) (fun flag has => ?_) (fun _ => none .locale) turns
    skips
  cases (none flag).symm.trans has

theorem readFlags_opens_of_letter (alphabet : Alphabet) {input opened : Input} {c : Char}
    {flag : Flag} (letter : Flag.ofLetter? c = some flag)
    (first : input.rest = .plain '?' :: .plain c :: opened.rest) :
    Ensures (readFlags alphabet (some flag) opened) fun (lexeme, after) =>
      Opens alphabet input lexeme after := by
  rw [readFlags_eq]
  have none (flag : Flag) : Flags.none.has flag = false := by cases flag <;> rfl
  refine (readFlagsOn_reads alphabet _ flag .none opened).bind
    fun (on, stop, middle) ⟨letters, split, all, mute, turned, textual⟩ => ?_
  refine (flagGroup_skips on stop middle).mono fun (lexeme, after) ⟨turns, skips⟩ => ?_
  refine .flags (c :: letters) (by rw [first, split]; rfl) ?_ mute nofun ?_ ?_ turns skips
  · intro d member
    rcases List.mem_cons.mp member with rfl | later
    · rw [letter]
      rfl
    · exact all d later
  · intro wanted has
    rcases turned wanted has with before | rfl | ⟨d, later, same⟩
    · cases (none wanted).symm.trans before
    · exact ⟨c, List.mem_cons_self, letter⟩
    · exact ⟨d, List.mem_cons_of_mem c later, same⟩
  · intro text
    refine Bool.eq_false_iff.mpr fun has => ?_
    cases (none .locale).symm.trans (textual text has)

theorem readNamed_opens (alphabet : Alphabet) {input opened : Input}
    (first : input.rest = .plain '?' :: .plain 'P' :: opened.rest) :
    Ensures (readNamed opened) fun (lexeme, after) => Opens alphabet input lexeme after := by
  have checked (name : List Char) (input : Input) :
      Ensures (checkName name input) fun _ => Text.isIdentifier name = true := by
    unfold checkName
    split
    · next identifier => exact .ok identifier
    · exact .error
  refine (opened.accept_accepts '<').bind fun (angle, named) atAngle => ?_
  dsimp only
  split
  · next isNamed =>
    cases isNamed
    refine (named.takeUntil_reads '>' _).bind fun (name, after) ⟨pieces, split, _, same, _⟩ => ?_
    subst same
    refine (checked _ after).bind fun _ identifier => .ok ?_
    exact .named (by rw [first, atAngle, split]) identifier
  · next notNamed =>
    cases angle with
    | true => exact absurd rfl notNamed
    | false =>
      obtain ⟨rfl, -⟩ := atAngle
      refine (named.accept_accepts '=').bind fun (equals, referring) atEquals => ?_
      dsimp only
      split
      · next isReference =>
        cases isReference
        refine (referring.takeUntil_reads ')' _).bind
          fun (name, after) ⟨pieces, split, _, same, _⟩ => ?_
        subst same
        refine (checked _ after).bind fun _ identifier => .ok ?_
        exact .reference (by rw [first, atEquals, split]) identifier
      · refine (Ensures.trivial _).bind fun (piece?, _) _ => ?_
        cases piece? <;> exact .error

theorem readBehind_opens (alphabet : Alphabet) {input opened : Input}
    (first : input.rest = .plain '?' :: .plain '<' :: opened.rest) :
    Ensures (readBehind opened) fun (lexeme, after) => Opens alphabet input lexeme after := by
  refine opened.take_takes.bind fun (piece?, after) takes => ?_
  have behind (negated : Bool) {c : Char} (mute : (Piece.plain c).isMute = true)
      (head : opened.rest = .plain c :: after.rest) :
      Opens alphabet input (.opening (.behind negated)) after :=
    .kind first (by decide) rfl .intro (.one head mute)
  cases piece? with
  | none => exact .error
  | some piece =>
    dsimp only
    split
    · exact .ok (behind false rfl takes)
    · exact .ok (behind true rfl takes)
    · exact .error

theorem readOpening_opens (alphabet : Alphabet) (start : Nat) (input : Input) :
    Ensures (readOpening alphabet start input) fun (lexeme, after) =>
      Opens alphabet input lexeme after := by
  refine (input.accept_accepts '?').bind fun (question, opened) atQuestion => ?_
  cases question with
  | false =>
    obtain ⟨rfl, simple⟩ := atQuestion
    exact .ok (.group simple)
  | true =>
    have atQuestion : input.rest = .plain '?' :: opened.rest := atQuestion
    simp only [Bool.not_true, Bool.false_eq_true, if_false]
    refine opened.take_takes.bind fun (piece?, middle) takes => ?_
    cases piece? with
    | none => exact .error
    | some piece =>
      have first : input.rest = .plain '?' :: piece :: middle.rest := by
        rw [atQuestion, show opened.rest = piece :: middle.rest from takes]
      dsimp only
      split
      · exact readNamed_opens alphabet first
      · exact .ok (.kind first (by decide) rfl rfl (.refl middle))
      · refine (Input.skipPast_reads ')' _ middle.rest).bind fun (closed, after) reads => ?_
        dsimp only
        split
        · next found =>
          cases found
          obtain ⟨pieces, split, absent⟩ := reads
          exact .ok (.comment (by rw [first, split]) absent)
        · exact .error
      · exact .ok (.kind first (by decide) rfl .intro (.refl middle))
      · exact .ok (.kind first (by decide) rfl .intro (.refl middle))
      · exact readBehind_opens alphabet first
      · refine (middle.takeUntil_reads ')' _).bind
          fun (name, after) ⟨pieces, split, _, same, nonempty⟩ => .ok ?_
        subst same
        exact .condition (by rw [first, split]) nonempty
      · exact .ok (.kind first (by decide) rfl .intro (.refl middle))
      · exact readFlags_opens alphabet first
      · split
        · next found =>
          obtain ⟨c, rfl, letter⟩ := letter_of_flagOf? found
          exact readFlags_opens_of_letter alphabet letter first
        · exact .error

theorem Opens.groupless {alphabet : Alphabet} {input after : Input} {lexeme : Lexeme}
    (opens : Opens alphabet input lexeme after) : lexeme.Groupless := by
  cases opens with
  | flags _ _ _ _ _ _ _ turns =>
    rcases turns with ⟨-, rfl⟩ | ⟨off, rfl⟩
    · exact .intro
    · exact .intro
  | _ => exact .intro

theorem Opens.leaves {alphabet : Alphabet} {input after : Input} {lexeme : Lexeme}
    (opens : Opens alphabet input lexeme after) : input.Leaves after := by
  have behind (front : List Piece) {middle : Input} (split : input.rest = front ++ middle.rest)
      (skips : middle.Skips after) : input.Leaves after :=
    Input.Leaves.trans ⟨front, split.symm⟩ skips.leaves
  cases opens with
  | group => exact .refl input
  | @named pieces _ split =>
    exact behind (.plain '?' :: .plain 'P' :: .plain '<' :: (pieces ++ [.plain '>']))
      (by simp [split]) (.refl after)
  | @reference pieces _ split =>
    exact behind (.plain '?' :: .plain 'P' :: .plain '=' :: (pieces ++ [.plain ')']))
      (by simp [split]) (.refl after)
  | @comment pieces _ split =>
    exact behind (.plain '?' :: .plain '#' :: (pieces ++ [.plain ')']))
      (by simp [split]) (.refl after)
  | @condition pieces _ split =>
    exact behind (.plain '?' :: .plain '(' :: (pieces ++ [.plain ')']))
      (by simp [split]) (.refl after)
  | @kind _ c _ _ split _ _ _ skips =>
    exact behind [.plain '?', .plain c] (by simp [split]) skips
  | @flags _ _ letters stop _ _ split _ _ _ _ _ _ skips =>
    exact behind (.plain '?' :: (letters.map .plain ++ [.plain stop])) (by simp [split]) skips

def ClosesSet (input after : Input) : Prop :=
  SetItem.Closes true input after ∧ input.rest.head? ≠ some (.plain '^') ∨
    ∃ middle : Input, input.rest = .plain '^' :: middle.rest ∧ SetItem.Closes true middle after

theorem ClosesSet.leaves {input after : Input} (closes : ClosesSet input after) :
    input.Leaves after := by
  rcases closes with ⟨closes, -⟩ | ⟨middle, split, closes⟩
  · exact closes.leaves
  · exact Input.Leaves.trans ⟨[.plain '^'], split.symm⟩ closes.leaves

theorem readSet_closes (alphabet : Alphabet) (start : Nat) (input : Input) :
    Ensures (readSet alphabet start input) fun (lexeme, after) =>
      lexeme.Groupless ∧ lexeme.Inert ∧ ClosesSet input after := by
  refine (input.accept_accepts '^').bind fun (negated, opened) first => ?_
  refine (SetItem.readAll_closes alphabet start _ [] opened).bind fun (items, after) closes => ?_
  refine .ok ⟨rfl, .intro, ?_⟩
  cases negated with
  | true => exact .inr ⟨opened, first, closes⟩
  | false =>
    obtain ⟨rfl, simple⟩ := first
    exact .inl ⟨closes, simple⟩

theorem readPlain_skips (alphabet : Alphabet) (c : Char) (start : Nat) (input : Input)
    (parenthesis : c ≠ '(') (bracket : c ≠ '[') :
    Ensures (readPlain alphabet false c start input) fun (lexeme, after) =>
      lexeme.Groupless ∧ lexeme.Inert ∧ input.Skips after := by
  unfold readPlain
  simp only [Bool.false_and, Bool.false_eq_true, if_false]
  split
  · exact absurd rfl bracket
  · exact .ok ⟨.intro, .intro, .refl input⟩
  · exact .ok ⟨.intro, .intro, .refl input⟩
  · exact .ok ⟨.intro, .intro, .refl input⟩
  · exact readBraces_skips input
  · exact .ok ⟨rfl, .intro, .refl input⟩
  · exact absurd rfl parenthesis
  · exact .ok ⟨rfl, .intro, .refl input⟩
  · exact .ok ⟨rfl, .intro, .refl input⟩
  · exact .ok ⟨rfl, .intro, .refl input⟩

/-- What a piece makes of what follows it where verbose mode is off. -/
inductive Consumes (alphabet : Alphabet) (input : Input) : Piece → Lexeme → Input → Prop
  | opens {lexeme : Lexeme} {after : Input} (opens : Opens alphabet input lexeme after) :
    Consumes alphabet input (.plain '(') lexeme after
  | set {lexeme : Lexeme} {after : Input} (inert : lexeme.Inert) (closes : ClosesSet input after) :
    Consumes alphabet input (.plain '[') lexeme after
  | skips {piece : Piece} {lexeme : Lexeme} {after : Input} (parenthesis : piece ≠ .plain '(')
    (bracket : piece ≠ .plain '[') (dangling : piece ≠ .dangling) (inert : lexeme.Inert)
    (skips : input.Skips after) : Consumes alphabet input piece lexeme after

theorem Consumes.leaves {alphabet : Alphabet} {input after : Input} {piece : Piece}
    {lexeme : Lexeme} (consumes : Consumes alphabet input piece lexeme after) :
    input.Leaves after := by
  cases consumes with
  | opens opens => exact opens.leaves
  | set _ closes => exact closes.leaves
  | skips _ _ _ _ skips => exact skips.leaves

theorem read_consumes (alphabet : Alphabet) (piece : Piece) (start : Nat) (input : Input) :
    Ensures (read alphabet false piece start input) fun (lexeme, after) =>
      lexeme.Groupless ∧ Consumes alphabet input piece lexeme after := by
  cases piece with
  | plain c =>
    by_cases parenthesis : c = '('
    · subst parenthesis
      exact (readOpening_opens alphabet start input).mono fun _ opens =>
        ⟨opens.groupless, .opens opens⟩
    by_cases bracket : c = '['
    · subst bracket
      exact (readSet_closes alphabet start input).mono fun _ ⟨groupless, inert, closes⟩ =>
        ⟨groupless, .set inert closes⟩
    · refine (readPlain_skips alphabet c start input parenthesis bracket).mono
        fun _ ⟨groupless, inert, skips⟩ => ⟨groupless, ?_⟩
      exact .skips (by simpa using parenthesis) (by simpa using bracket) nofun inert skips
  | escaped c =>
    refine (Escape.readOutside_passes alphabet c start input).bind fun (meaning, after) left => ?_
    have skips : input.Skips after := left.2.mono Escape.isMute_of_isTailPiece
    cases meaning with
    | item regex => exact .ok ⟨left.1, .skips nofun nofun nofun .intro skips⟩
    | reference group => exact .ok ⟨.intro, .skips nofun nofun nofun .intro skips⟩
  | dangling => exact .error

/-- Verbose mode passes over white space and comments, and reads everything else in the same way. -/
theorem read_verbose (alphabet : Alphabet) (verbose : Bool) (piece : Piece) (start : Nat)
    (input : Input) : Ensures (read alphabet verbose piece start input) fun (lexeme, after) =>
      lexeme.Groupless ∧ (Consumes alphabet input piece lexeme after ∨
        piece ≠ .plain '(' ∧ lexeme = .blank ∧ input.Leaves after) := by
  have plainly : Ensures (read alphabet false piece start input) fun (lexeme, after) =>
      lexeme.Groupless ∧ (Consumes alphabet input piece lexeme after ∨
        piece ≠ .plain '(' ∧ lexeme = .blank ∧ input.Leaves after) :=
    (read_consumes alphabet piece start input).mono fun _ reads => ⟨reads.1, .inl reads.2⟩
  cases verbose with
  | false => exact plainly
  | true =>
    cases piece with
    | plain c =>
      show Ensures (readPlain alphabet true c start input) _
      have blank : isVerboseBlank '(' = false := by decide
      unfold readPlain
      split
      · next skipped =>
        refine .ok ⟨.intro, .inr ⟨?_, rfl, .refl input⟩⟩
        rintro ⟨⟩
        simp [blank] at skipped
      split
      · next hash =>
        refine (Input.skipPast_leaves _ _ input.rest).bind fun (_, after) left => ?_
        refine .ok ⟨.intro, .inr ⟨?_, rfl, left⟩⟩
        rintro ⟨⟩
        simp at hash
      · exact plainly
    | _ => exact plainly

theorem read_leaves (alphabet : Alphabet) (verbose : Bool) (piece : Piece) (start : Nat)
    (input : Input) : Ensures (read alphabet verbose piece start input) fun (lexeme, after) =>
      lexeme.Groupless ∧ input.Leaves after := by
  refine (read_verbose alphabet verbose piece start input).mono
    fun (lexeme, after) ⟨groupless, reads⟩ => ⟨groupless, ?_⟩
  rcases reads with consumes | ⟨-, -, leaves⟩
  · exact consumes.leaves
  · exact leaves

end Lexeme

namespace Flags

theorem has_ofList {flags : List Flag} {flag : Flag} :
    (ofList flags).has flag = true ↔ flag ∈ flags := by
  have inserted (start : Flags) :
      (flags.foldl insert start).has flag = true ↔ start.has flag = true ∨ flag ∈ flags := by
    induction flags generalizing start with
    | nil => simp
    | cons first flags ih =>
      rw [List.foldl_cons, ih, Lexeme.has_insert, List.mem_cons, or_assoc, eq_comm (a := flag)]
  have none : Flags.none.has flag = false := by simp [Flags.has, Flags.none]
  rw [ofList, inserted, none]
  simp

end Flags

end RuleLexer
