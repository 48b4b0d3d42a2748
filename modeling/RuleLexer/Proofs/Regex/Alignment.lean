import RuleLexer.Proofs.Regex.Reading
import RuleLexer.Source.Literal

namespace RuleLexer

variable {ε α β γ δ : Type}

/-- Whenever the first computation returns, the second one returns something related to it, unless
it fails and that is excused. -/
def Mirrors (excused : Prop) (related : α → β → Prop) (one : Except ε α) (other : Except ε β) :
    Prop :=
  ∀ value, one = .ok value →
    (excused ∧ ∃ failure, other = .error failure) ∨ ∃ image, other = .ok image ∧ related value image

namespace Mirrors

variable {excused : Prop} {related : α → β → Prop} {one : Except ε α} {other : Except ε β}

theorem ok {value : α} {image : β} (holds : related value image) :
    Mirrors excused related (.ok value : Except ε α) (.ok image) := by
  rintro _ ⟨⟩
  exact .inr ⟨image, rfl, holds⟩

theorem error {failure : ε} : Mirrors excused related (.error failure) other := nofun

theorem bind {next : α → Except ε γ} {next' : β → Except ε δ} {after : γ → δ → Prop}
    (first : Mirrors excused related one other)
    (rest : ∀ value image, related value image → Mirrors excused after (next value) (next' image)) :
    Mirrors excused after (one >>= next) (other >>= next') := by
  intro result returned
  obtain ⟨value, here, later⟩ := bind_eq_ok_iff.mp returned
  rcases first value here with ⟨excuse, failure, failed⟩ | ⟨image, there, holds⟩
  · exact .inl ⟨excuse, failure, by rw [failed]; rfl⟩
  · rw [there]
    exact rest value image holds result later

theorem branch {test test' : Prop} [Decidable test] [Decidable test'] {one' : Except ε α}
    {other' : Except ε β} {next : α → Except ε γ} {next' : β → Except ε δ} {after : γ → δ → Prop}
    (first : Mirrors excused related (if test then one else one') (if test' then other else other'))
    (rest : ∀ value image, related value image → Mirrors excused after (next value) (next' image)) :
    Mirrors excused after (if test then one >>= next else one' >>= next)
      (if test' then other >>= next' else other' >>= next') := by
  have same : (if test then one >>= next else one' >>= next) =
      (if test then one else one') >>= next := by
    split <;> rfl
  have same' : (if test' then other >>= next' else other' >>= next') =
      (if test' then other else other') >>= next' := by
    split <;> rfl
  rw [same, same']
  exact first.bind rest

theorem map {mapped : α → γ} {mapped' : β → δ} {after : γ → δ → Prop}
    (first : Mirrors excused related one other)
    (rest : ∀ value image, related value image → after (mapped value) (mapped' image)) :
    Mirrors excused after (mapped <$> one) (mapped' <$> other) := by
  cases one with
  | error failure => exact error
  | ok value =>
    rintro _ ⟨⟩
    rcases first value rfl with ⟨excuse, failure, rfl⟩ | ⟨image, rfl, holds⟩
    · exact .inl ⟨excuse, failure, rfl⟩
    · exact .inr ⟨mapped' image, rfl, rest value image holds⟩

theorem also {condition : β → Prop} (strong : Mirrors excused related one other)
    (ensured : Ensures other condition) :
    Mirrors excused (fun value image => related value image ∧ condition image) one other := by
  intro value returned
  rcases strong value returned with failed | ⟨image, there, holds⟩
  · exact .inl failed
  · exact .inr ⟨image, there, holds, ensured image there⟩

theorem mono {wider : α → β → Prop} (strong : Mirrors excused related one other)
    (weaker : ∀ value image, related value image → wider value image) :
    Mirrors excused wider one other := by
  intro value returned
  exact (strong value returned).imp_right fun ⟨image, there, holds⟩ =>
    ⟨image, there, weaker value image holds⟩

theorem excuse (strict : Mirrors False related one other) : Mirrors excused related one other := by
  intro value returned
  rcases strict value returned with ⟨⟨⟩, _⟩ | mirrored
  exact .inr mirrored

theorem ensures {related : α → α → Prop} (strict : Mirrors False related one one) :
    Ensures one fun value => related value value := by
  intro value returned
  rcases strict value returned with ⟨⟨⟩, _⟩ | ⟨image, again, holds⟩
  cases returned.symm.trans again
  exact holds

theorem refl (computed : Except ε α) : Mirrors excused (· = ·) computed computed :=
  fun value returned => .inr ⟨value, returned, rfl⟩

end Mirrors

/-- What a text shows of the groups that it opens, of the groups that it refers to by number, and of
the numbers of its conditions. -/
inductive Landmark where
  | group
  | reference (number : Nat)
  | condition (name : List Char)
deriving DecidableEq, Repr

/-- How the numbers of two texts correspond, and what follows the second text. -/
structure Renumbering where
  reference : Nat → Nat → Prop
  condition : List Char → List Char → Prop
  tail : List Piece

inductive Spells : List Char → Nat → Prop
  | one {c : Char} (digit : c.isDigit) (first : c ≠ '0') : Spells [c] (Escape.number 10 [c])
  | two {c d : Char} (digit : c.isDigit) (first : c ≠ '0') (second : d.isDigit) :
    Spells [c, d] (Escape.number 10 [c, d])

theorem Spells.unique {digits : List Char} {m n : Nat} (one : Spells digits m)
    (other : Spells digits n) : m = n := by
  cases one <;> cases other <;> rfl

inductive Octal : List Char → Nat → Prop
  | zero {cs : List Char} (octal : cs.all Escape.isOctal) (short : cs.length ≤ 2) :
    Octal ('0' :: cs) (Escape.number 8 cs)
  | three {c d e : Char} (first : c ≠ '0') (octal : [c, d, e].all Escape.isOctal)
    (byte : Escape.number 8 [c, d, e] ≤ 0o377) : Octal [c, d, e] (Escape.number 8 [c, d, e])

/-- Characters that mean themselves, whatever stands before them. -/
def isLoose (c : Char) : Bool :=
  !isSpecial c && !c.isDigit && c != ','

theorem ne_of_ordinary {c d : Char} (ordinary : isSpecial c = false ∨ c = '&')
    (special : isSpecial d = true ∧ d ≠ '&') : c ≠ d := by
  rintro rfl
  rcases ordinary with plain | ampersand
  · cases plain.symm.trans special.1
  · exact special.2 ampersand

theorem isSpecial_of_isLoose {c : Char} (loose : isLoose c = true) : isSpecial c = false := by
  simp only [isLoose, Bool.and_eq_true, Bool.not_eq_true'] at loose
  exact loose.1.1

theorem isDigit_of_foreign {c : Char} (foreign : 0x7F < c.toNat) : c.isDigit = false := by
  refine Bool.eq_false_iff.mpr fun digit => ?_
  simp only [Char.isDigit, Bool.and_eq_true, decide_eq_true_eq] at digit
  have bound : c.toNat ≤ 57 := digit.2
  omega

theorem isLoose_of_foreign {c : Char} (foreign : 0x7F < c.toNat) : isLoose c = true := by
  have ordinary : isSpecial c = false := by
    refine Bool.eq_false_iff.mpr fun special => ?_
    have low : "()[]\x7b\x7d?*+-|^$\\.&~# \t\n\r\x0b\x0c".toList.all (·.toNat ≤ 0x7F) = true := by
      decide
    have bound := List.all_eq_true.mp low c (List.contains_iff_mem.mp special)
    rw [decide_eq_true_eq] at bound
    omega
  have comma : c ≠ ',' := by
    rintro rfl
    cases Nat.not_lt.mpr (show ','.toNat ≤ 0x7F by decide) foreign
  simp [isLoose, ordinary, isDigit_of_foreign foreign, comma]

inductive Denotes (code : Nat) : Piece → List Char → Prop
  | octal {c : Char} {cs : List Char} (spelled : Octal (c :: cs) code) :
    Denotes code (.escaped c) cs
  | itself {c : Char} (loose : isLoose c = true) (same : c.toNat = code) :
    Denotes code (.plain c) []
  | escaped {c : Char} (special : isSpecial c = true) (same : c.toNat = code) :
    Denotes code (.escaped c) []

def DigitFree (rest : List Piece) : Prop :=
  ∀ c, rest.head? = some (.plain c) → c.isDigit = false

def Piece.isFlag (piece : Piece) : Bool :=
  (Lexeme.flagOf? piece).isSome

/-- What follows an opening parenthesis and a question mark is neither a comment nor a condition nor
a name nor a group of flags for the whole pattern, and it does not turn on verbose mode. -/
structure Modest (rest : List Piece) : Prop where
  comment : rest.head? ≠ some (.plain '#')
  condition : rest.head? ≠ some (.plain '(')
  name : rest.head? = some (.plain 'P') → rest.tail.head? ≠ some (.plain '<')
  verbose : .plain 'x' ∉ rest.takeWhile Piece.isFlag
  closing : (rest.dropWhile Piece.isFlag).head? ≠ some (.plain ')')

/-- The second text is the first with other numbers, and is followed by the tail. Landmarks are
those still to come; the switch says whether the texts start inside a character set. -/
inductive Aligned (numbers : Renumbering) :
    List Landmark → Bool → List Piece → List Piece → Prop
  | done : Aligned numbers [] false [] numbers.tail
  | plain {marks : List Landmark} {s t : List Piece} {c : Char}
    (parenthesis : c ≠ '(') (bracket : c ≠ '[')
    (rest : Aligned numbers marks false s t) :
    Aligned numbers marks false (.plain c :: s) (.plain c :: t)
  | escaped {marks : List Landmark} {s t : List Piece} {c : Char} (digit : c.isDigit = false)
    (rest : Aligned numbers marks false s t) :
    Aligned numbers marks false (.escaped c :: s) (.escaped c :: t)
  | number {marks : List Landmark} {s t : List Piece} {c c' : Char} {cs cs' : List Char}
    {n n' : Nat}
    (spelled : Spells (c :: cs) n) (spelled' : Spells (c' :: cs') n')
    (related : numbers.reference n n') (stops : DigitFree s) (stops' : DigitFree t)
    (rest : Aligned numbers marks false s t) :
    Aligned numbers (.reference n :: marks) false (.escaped c :: (cs.map .plain ++ s))
      (.escaped c' :: (cs'.map .plain ++ t))
  | denoted {marks : List Landmark} {s t : List Piece} {c : Char} {cs more : List Char}
    {piece : Piece} {code : Nat}
    (spelled : Octal (c :: cs) code) (written : Denotes code piece more)
    (stops : DigitFree s) (stops' : DigitFree t) (rest : Aligned numbers marks false s t) :
    Aligned numbers marks false (.escaped c :: (cs.map .plain ++ s))
      (piece :: (more.map .plain ++ t))
  | literal {marks : List Landmark} {s t : List Piece} {c : Char} (foreign : 0x7F < c.toNat)
    (rest : Aligned numbers marks false s t) :
    Aligned numbers marks false (.escaped c :: s) (.plain c :: t)
  | set {marks : List Landmark} {s t : List Piece} {piece : Piece} (caret : piece ≠ .plain '^')
    (dangling : piece ≠ .dangling) (rest : Aligned numbers marks true s t) :
    Aligned numbers marks false (.plain '[' :: piece :: s) (.plain '[' :: piece :: t)
  | complement {marks : List Landmark} {s t : List Piece} {piece : Piece}
    (dangling : piece ≠ .dangling) (rest : Aligned numbers marks true s t) :
    Aligned numbers marks false (.plain '[' :: .plain '^' :: piece :: s)
      (.plain '[' :: .plain '^' :: piece :: t)
  | member {marks : List Landmark} {s t : List Piece} {piece : Piece} (inner : piece ≠ .plain ']')
    (dangling : piece ≠ .dangling) (rest : Aligned numbers marks true s t) :
    Aligned numbers marks true (piece :: s) (piece :: t)
  | close {marks : List Landmark} {s t : List Piece} (rest : Aligned numbers marks false s t) :
    Aligned numbers marks true (.plain ']' :: s) (.plain ']' :: t)
  | opening {marks : List Landmark} {s t : List Piece} (simple : s.head? ≠ some (.plain '?'))
    (rest : Aligned numbers marks false s t) :
    Aligned numbers (.group :: marks) false (.plain '(' :: s) (.plain '(' :: t)
  | extension {marks : List Landmark} {s t : List Piece} (modest : Modest s)
    (rest : Aligned numbers marks false s t) :
    Aligned numbers marks false (.plain '(' :: .plain '?' :: s) (.plain '(' :: .plain '?' :: t)
  | named {marks : List Landmark} {s t : List Piece} (rest : Aligned numbers marks false s t) :
    Aligned numbers (.group :: marks) false
      (.plain '(' :: .plain '?' :: .plain 'P' :: .plain '<' :: s)
      (.plain '(' :: .plain '?' :: .plain 'P' :: .plain '<' :: t)
  | condition {marks : List Landmark} {s t : List Piece} {name name' : List Char}
    (digits : name.all Char.isDigit) (digits' : name'.all Char.isDigit) (some : name ≠ [])
    (some' : name' ≠ []) (related : numbers.condition name name')
    (rest : Aligned numbers marks false s t) :
    Aligned numbers (.condition name :: marks) false
      (.plain '(' :: .plain '?' :: .plain '(' :: (name.map .plain ++ .plain ')' :: s))
      (.plain '(' :: .plain '?' :: .plain '(' :: (name'.map .plain ++ .plain ')' :: t))
  | namedCondition {marks : List Landmark} {s t : List Piece} {name : List Char}
    (identifier : Text.isIdentifier name) (rest : Aligned numbers marks false s t) :
    Aligned numbers marks false
      (.plain '(' :: .plain '?' :: .plain '(' :: (name.map .plain ++ .plain ')' :: s))
      (.plain '(' :: .plain '?' :: .plain '(' :: (name.map .plain ++ .plain ')' :: t))
  | comment {marks : List Landmark} {s t body : List Piece} (closing : .plain ')' ∉ body)
    (rest : Aligned numbers marks false s t) :
    Aligned numbers marks false (.plain '(' :: .plain '?' :: .plain '#' :: (body ++ .plain ')' :: s))
      (.plain '(' :: .plain '?' :: .plain '#' :: (body ++ .plain ')' :: t))

def Renumbering.Ends (numbers : Renumbering) : Prop :=
  ∀ piece rest, numbers.tail = piece :: rest → piece = .plain ')' ∨ piece = .plain '|'

def isSteady (c : Char) : Bool :=
  !isLoose c && c != ')' && c != '|'

namespace Aligned

variable {numbers : Renumbering} {marks : List Landmark} {inside : Bool} {s t : List Piece}

theorem ne_dangling (aligned : Aligned numbers marks inside s t) (ends : numbers.Ends) :
    t ≠ [.dangling] := by
  intro dangling
  cases aligned with
  | done => cases ends _ _ dangling <;> contradiction
  | denoted _ written => cases written <;> cases dangling
  | member _ other => exact other (List.cons.inj dangling).1
  | _ => cases dangling

theorem ne_dangling_left (aligned : Aligned numbers marks inside s t) : s ≠ [.dangling] := by
  intro dangling
  cases aligned with
  | member _ other => exact other (List.cons.inj dangling).1
  | _ => cases dangling

theorem of_nil (aligned : Aligned numbers marks inside [] t) : marks = [] ∧ t = numbers.tail := by
  cases aligned with
  | done => exact ⟨rfl, rfl⟩

theorem uncons {c : Char} (aligned : Aligned numbers marks inside (.plain c :: s) t)
    (parenthesis : c ≠ '(') (bracket : c ≠ '[') (closing : c ≠ ']') :
    ∃ t', t = .plain c :: t' ∧ Aligned numbers marks inside s t' := by
  cases aligned with
  | plain _ _ rest => exact ⟨_, rfl, rest⟩
  | member _ _ rest => exact ⟨_, rfl, rest⟩
  | set => exact absurd rfl bracket
  | complement => exact absurd rfl bracket
  | close => exact absurd rfl closing
  | opening => exact absurd rfl parenthesis
  | extension => exact absurd rfl parenthesis
  | named => exact absurd rfl parenthesis
  | condition => exact absurd rfl parenthesis
  | namedCondition => exact absurd rfl parenthesis
  | comment => exact absurd rfl parenthesis

theorem head?_eq {c : Char} (aligned : Aligned numbers marks inside s t) (ends : numbers.Ends)
    (steady : isSteady c = true) (head : t.head? = some (.plain c)) :
    s.head? = some (.plain c) := by
  cases aligned with
  | done =>
    obtain ⟨rest, same⟩ := List.head?_eq_some_iff.mp head
    rcases ends _ _ same with closing | bar
    · cases closing
      cases steady
    · cases bar
      cases steady
  | number => cases head
  | denoted _ written =>
    cases written with
    | octal => cases head
    | escaped => cases head
    | itself loose =>
      cases head
      simp [isSteady, loose] at steady
  | literal foreign =>
    cases head
    simp [isSteady, isLoose_of_foreign foreign] at steady
  | _ => exact head

theorem head?_iff {c : Char} (aligned : Aligned numbers marks inside s t) (ends : numbers.Ends)
    (parenthesis : c ≠ '(') (bracket : c ≠ '[') (last : c ≠ ']') (steady : isSteady c = true) :
    s.head? = some (.plain c) ↔ t.head? = some (.plain c) := by
  constructor
  · intro head
    obtain ⟨rest, rfl⟩ := List.head?_eq_some_iff.mp head
    obtain ⟨rest', rfl, -⟩ := aligned.uncons parenthesis bracket last
    rfl
  · exact aligned.head?_eq ends steady

theorem uncons_inside {piece : Piece} (aligned : Aligned numbers marks true (piece :: s) t) :
    ∃ t', t = piece :: t' ∧ (piece = .plain ']' ∧ Aligned numbers marks false s t' ∨
      piece ≠ .plain ']' ∧ piece ≠ .dangling ∧ Aligned numbers marks true s t') := by
  cases aligned with
  | member inner dangling rest => exact ⟨_, rfl, .inr ⟨inner, dangling, rest⟩⟩
  | close rest => exact ⟨_, rfl, .inl ⟨rfl, rest⟩⟩

theorem ne_nil (aligned : Aligned numbers marks true s t) : s ≠ [] := by
  rintro rfl
  cases aligned

end Aligned

def isBracket (c : Char) : Bool :=
  c = '(' || c = '[' || c = ']'

theorem not_isBracket {c : Char} (ordinary : isBracket c = false) :
    c ≠ '(' ∧ c ≠ '[' ∧ c ≠ ']' := by
  simpa [isBracket, and_assoc] using ordinary

namespace Input

variable {numbers : Renumbering} {marks : List Landmark} {inside : Bool} {a b : Input}

theorem goTo_mirrors {s t : List Piece} (dangling : t ≠ [.dangling]) (here there : Nat) :
    Mirrors False (fun x y => x.rest = s ∧ y.rest = t) (goTo here s) (goTo there t) := by
  intro input returned
  have same := goTo_rest here s input returned
  exact .inr ⟨⟨there, t⟩, if_neg dangling, same, rfl⟩

theorem accept_of_head {c : Char} {input : Input} {rest : List Piece}
    (head : input.rest = .plain c :: rest) : input.accept c =
      goTo (input.position + 1) rest >>= fun after => .ok (true, after) := by
  simp [accept, head]

theorem accept_of_plain {c : Char} {input : Input} {rest : List Piece}
    (dangling : rest ≠ [.dangling]) (head : input.rest = .plain c :: rest) :
    input.accept c = .ok (true, ⟨input.position + 1, rest⟩) := by
  rw [accept_of_head head, goTo, if_neg dangling]
  rfl

theorem accept_of_other {c : Char} {input : Input} (other : input.rest.head? ≠ some (.plain c)) :
    input.accept c = .ok (false, input) := by
  unfold accept
  split
  · next d rest head =>
    split
    · next same => simp [head, same] at other
    · rfl
  · rfl

theorem accept_mirrors (ends : numbers.Ends)
    (aligned : Aligned numbers marks inside a.rest b.rest) {c : Char}
    (ordinary : isBracket c = false) (steady : isSteady c = true) :
    Mirrors False (fun x y => x.1 = y.1 ∧ Aligned numbers marks inside x.2.rest y.2.rest)
      (a.accept c) (b.accept c) := by
  obtain ⟨parenthesis, bracket, last⟩ := not_isBracket ordinary
  by_cases head : a.rest.head? = some (.plain c)
  · obtain ⟨s, here⟩ := List.head?_eq_some_iff.mp head
    rw [here] at aligned
    obtain ⟨t, there, rest⟩ := aligned.uncons parenthesis bracket last
    rw [accept_of_head here, accept_of_head there]
    refine (goTo_mirrors (rest.ne_dangling ends) _ _).bind fun x y same => .ok ⟨rfl, ?_⟩
    rw [same.1, same.2]
    exact rest
  · have other : b.rest.head? ≠ some (.plain c) := fun same =>
      head (aligned.head?_eq ends steady same)
    rw [accept_of_other head, accept_of_other other]
    exact .ok ⟨rfl, aligned⟩

theorem take_bind {input : Input} {piece : Piece} {rest : List Piece}
    (head : input.rest = piece :: rest) (next : Option Piece × Input → Except Rejection γ) :
    input.take >>= next =
      goTo (input.position + piece.length) rest >>= fun after => next (some piece, after) := by
  simp only [take, head]
  cases goTo (input.position + piece.length) rest <;> rfl

theorem take_mirrors (ends : numbers.Ends)
    (aligned : Aligned numbers marks inside a.rest b.rest) {after : γ → δ → Prop}
    {next : Option Piece × Input → Except Rejection γ}
    {next' : Option Piece × Input → Except Rejection δ}
    (character : ∀ c x y, isBracket c = false → a.rest = .plain c :: x.rest →
      b.rest = .plain c :: y.rest → Aligned numbers marks inside x.rest y.rest →
        Mirrors False after (next (some (.plain c), x)) (next' (some (.plain c), y)))
    (otherwise : ∀ piece? x, piece? = a.rest.head? →
      (∀ c, piece? = some (.plain c) → isBracket c = true) →
        Ensures (next (piece?, x)) fun _ => False) :
    Mirrors False after (a.take >>= next) (b.take >>= next') := by
  cases here : a.rest with
  | nil =>
    intro value returned
    simp only [take, here] at returned
    exact (otherwise none a (by simp [here]) nofun value returned).elim
  | cons piece s =>
    by_cases ordinary : ∃ c, piece = .plain c ∧ isBracket c = false
    · obtain ⟨c, rfl, ordinary⟩ := ordinary
      obtain ⟨parenthesis, bracket, last⟩ := not_isBracket ordinary
      obtain ⟨t, there, rest⟩ := (here ▸ aligned).uncons parenthesis bracket last
      rw [take_bind here, take_bind there]
      refine (goTo_mirrors (rest.ne_dangling ends) _ _).bind fun x y same => ?_
      obtain ⟨rfl, rfl⟩ := same
      exact character c x y ordinary here there rest
    · intro value returned
      rw [take_bind here] at returned
      obtain ⟨x, -, failed⟩ := bind_eq_ok_iff.mp returned
      refine (otherwise (some piece) x (by simp [here]) (fun c same => ?_) value failed).elim
      cases same
      cases bracket : isBracket c with
      | true => rfl
      | false => exact absurd ⟨c, rfl, bracket⟩ ordinary

theorem takeSome_of_head {kind : Char → Bool} {input : Input} {c : Char} {rest : List Piece}
    (head : input.rest = .plain c :: rest) (holds : kind c = true) (count : Nat) :
    input.takeSome kind (count + 1) = (do
      let middle ← goTo (input.position + 1) rest
      let (taken, after) ← middle.takeSome kind count
      .ok (c :: taken, after)) := by
  simp [takeSome, head, holds]

theorem takeSome_of_other {kind : Char → Bool} {input : Input}
    (other : ∀ c, input.rest.head? = some (.plain c) → kind c = false) (count : Nat) :
    input.takeSome kind count = .ok ([], input) := by
  cases count with
  | zero => rfl
  | succ count =>
    unfold takeSome
    split
    · next c rest head => simp [other c (by simp [head])]
    · rfl

theorem takeSome_of_all {kind : Char → Bool} {cs : List Char} (all : cs.all kind = true) {count : Nat}
    (short : cs.length ≤ count) {rest : List Piece}
    (stops : ∀ c, rest.head? = some (.plain c) → kind c = false) (dangling : rest ≠ [.dangling])
    {input : Input} (text : input.rest = cs.map .plain ++ rest) :
    ∃ place, input.takeSome kind count = .ok (cs, ⟨place, rest⟩) := by
  induction cs generalizing count input with
  | nil =>
    refine ⟨input.position, ?_⟩
    have same : input.rest = rest := text
    rw [takeSome_of_other (same ▸ stops), ← same]
  | cons c cs ih =>
    simp only [List.all_cons, Bool.and_eq_true] at all
    cases count with
    | zero => cases short
    | succ count =>
      have onward : cs.map Piece.plain ++ rest ≠ [.dangling] := by
        cases cs with
        | nil => exact dangling
        | cons => simp
      let next : Input := ⟨input.position + 1, cs.map .plain ++ rest⟩
      have behind : next.rest = cs.map .plain ++ rest := rfl
      obtain ⟨place, taken⟩ := ih all.2 (Nat.le_of_succ_le_succ short) behind
      refine ⟨place, ?_⟩
      have head : input.rest = .plain c :: (cs.map .plain ++ rest) := text
      rw [takeSome_of_head head all.1, goTo, if_neg onward]
      simp [next, taken, bind, Except.bind]

theorem takeSome_mirrors (ends : numbers.Ends) {kind : Char → Bool}
    (ordinary : ∀ c, kind c = true → isBracket c = false ∧ isSteady c = true) {count count' : Nat}
    (aligned : Aligned numbers marks inside a.rest b.rest)
    (enough : count = count' ∨ a.rest.length ≤ count ∧ b.rest.length ≤ count') :
    Mirrors False (fun x y => x.1 = y.1 ∧ Aligned numbers marks inside x.2.rest y.2.rest)
      (a.takeSome kind count) (b.takeSome kind count') := by
  have stops {a b : Input} (aligned : Aligned numbers marks inside a.rest b.rest)
      (other : ∀ c, a.rest.head? = some (.plain c) → kind c = false) (c : Char)
      (head : b.rest.head? = some (.plain c)) : kind c = false := by
    cases holds : kind c with
    | false => rfl
    | true =>
      rw [other c (aligned.head?_eq ends (ordinary c holds).2 head)] at holds
      cases holds
  -- The counts are the same or both large enough for all that is left, which every character keeps
  -- so.
  induction count generalizing count' a b with
  | zero =>
    rcases enough with rfl | ⟨none, -⟩
    · exact .ok ⟨rfl, aligned⟩
    · have empty : a.rest = [] := List.eq_nil_of_length_eq_zero (Nat.le_zero.mp none)
      rw [takeSome_of_other (stops aligned (by simp [empty])) count']
      exact .ok ⟨rfl, aligned⟩
  | succ count ih =>
    by_cases starts : ∃ c s, a.rest = .plain c :: s ∧ kind c = true
    · obtain ⟨c, s, here, holds⟩ := starts
      obtain ⟨parenthesis, bracket, last⟩ := not_isBracket (ordinary c holds).1
      obtain ⟨t, there, rest⟩ := (here ▸ aligned).uncons parenthesis bracket last
      rw [here, there, List.length_cons, List.length_cons] at enough
      cases count' with
      | zero => omega
      | succ count' =>
        rw [takeSome_of_head here holds, takeSome_of_head there holds]
        refine (goTo_mirrors (rest.ne_dangling ends) _ _).bind fun x y same => ?_
        obtain ⟨rfl, rfl⟩ := same
        refine (ih rest (by omega)).bind fun x y same => ?_
        exact .ok ⟨congrArg (c :: ·) same.1, same.2⟩
    · have other : ∀ c, a.rest.head? = some (.plain c) → kind c = false := by
        intro c head
        obtain ⟨s, here⟩ := List.head?_eq_some_iff.mp head
        exact Bool.eq_false_iff.mpr fun holds => starts ⟨c, s, here, holds⟩
      rw [takeSome_of_other other, takeSome_of_other (stops aligned other)]
      exact .ok ⟨rfl, aligned⟩

theorem takeSome_full (ends : numbers.Ends) {kind : Char → Bool}
    (ordinary : ∀ c, kind c = true → isBracket c = false) {count : Nat}
    (aligned : Aligned numbers marks inside a.rest b.rest) {digits : List Char} {x : Input}
    (taken : a.takeSome kind count = .ok (digits, x)) (full : digits.length = count) :
    ∃ y, b.takeSome kind count = .ok (digits, y) ∧
      Aligned numbers marks inside x.rest y.rest := by
  induction count generalizing digits a b with
  | zero =>
    cases taken
    exact ⟨b, rfl, aligned⟩
  | succ count ih =>
    by_cases starts : ∃ c s, a.rest = .plain c :: s ∧ kind c = true
    · obtain ⟨c, s, here, holds⟩ := starts
      obtain ⟨parenthesis, bracket, last⟩ := not_isBracket (ordinary c holds)
      obtain ⟨t, there, rest⟩ := (here ▸ aligned).uncons parenthesis bracket last
      rw [takeSome_of_head here holds] at taken
      obtain ⟨middle, moved, taken⟩ := bind_eq_ok_iff.mp taken
      obtain ⟨⟨others, _⟩, taken, same⟩ := bind_eq_ok_iff.mp taken
      cases same
      rw [← goTo_rest _ s middle moved] at rest
      obtain ⟨y, taken', final⟩ := ih (b := ⟨b.position + 1, t⟩) rest taken (Nat.succ.inj full)
      refine ⟨y, ?_, final⟩
      rw [takeSome_of_head there holds, goTo, if_neg (rest.ne_dangling ends)]
      simp [taken', bind, Except.bind]
    · have other : ∀ c, a.rest.head? = some (.plain c) → kind c = false := by
        intro c head
        obtain ⟨s, here⟩ := List.head?_eq_some_iff.mp head
        exact Bool.eq_false_iff.mpr fun holds => starts ⟨c, s, here, holds⟩
      rw [takeSome_of_other other] at taken
      cases taken
      cases full

theorem takeAll_mirrors (ends : numbers.Ends) {kind : Char → Bool}
    (ordinary : ∀ c, kind c = true → isBracket c = false ∧ isSteady c = true)
    (aligned : Aligned numbers marks inside a.rest b.rest) :
    Mirrors False (fun x y => x.1 = y.1 ∧ Aligned numbers marks inside x.2.rest y.2.rest)
      (a.takeAll kind) (b.takeAll kind) :=
  takeSome_mirrors ends ordinary aligned (.inr ⟨Nat.le_refl _, Nat.le_refl _⟩)

theorem readUntil_name {terminator : Char} {what : String} {name : List Char} {rest : List Piece}
    (plain : terminator ∉ name) (dangling : rest ≠ [.dangling]) (taken : List Char) (position : Nat)
    (some : taken ++ name ≠ []) :
    ∃ place, readUntil terminator what taken position (name.map .plain ++ .plain terminator :: rest)
      = .ok (taken ++ name, ⟨place, rest⟩) := by
  induction name generalizing taken position with
  | nil =>
    refine ⟨position + 1, ?_⟩
    have nonempty : taken.isEmpty = false := by simpa using some
    simp [readUntil, goTo, dangling, nonempty, bind, Except.bind, Piece.length, Piece.text]
  | cons c name ih =>
    obtain ⟨place, read⟩ := ih (fun member => plain (List.mem_cons_of_mem c member)) (taken ++ [c])
      (position + 1) (by simp)
    refine ⟨place, ?_⟩
    have other : ¬c = terminator := fun same => plain (same ▸ List.mem_cons_self)
    have onward : name.map Piece.plain ++ .plain terminator :: rest ≠ [.dangling] := by
      cases name <;> simp
    rw [List.append_assoc, List.singleton_append] at read
    simp [readUntil, goTo, onward, bind, Except.bind, Piece.length, Piece.text, other, read]

theorem skipPast_body {last : Char} {body rest : List Piece} (absent : .plain last ∉ body)
    (dangling : rest ≠ [.dangling]) (position : Nat) :
    ∃ place, skipPast last position (body ++ .plain last :: rest) = .ok (true, ⟨place, rest⟩) := by
  induction body generalizing position with
  | nil =>
    refine ⟨position + 1, ?_⟩
    simp [skipPast, goTo, dangling, bind, Except.bind, Piece.length, Piece.text]
  | cons piece body ih =>
    obtain ⟨place, skipped⟩ := ih (fun member => absent (List.mem_cons_of_mem _ member))
      (position + piece.length)
    refine ⟨place, ?_⟩
    have other : piece ≠ .plain last := fun same => absent (same ▸ List.mem_cons_self)
    have onward : body ++ .plain last :: rest ≠ [.dangling] := by
      cases body <;> simp
    simp [skipPast, goTo, onward, bind, Except.bind, other, skipped]

theorem uncons_name {cs : List Char} {s t : List Piece}
    (ordinary : ∀ c ∈ cs, isBracket c = false)
    (aligned : Aligned numbers marks inside (cs.map .plain ++ s) t) :
    ∃ t', t = cs.map .plain ++ t' ∧ Aligned numbers marks inside s t' := by
  induction cs generalizing t with
  | nil => exact ⟨t, rfl, aligned⟩
  | cons c cs ih =>
    obtain ⟨parenthesis, bracket, last⟩ := not_isBracket (ordinary c List.mem_cons_self)
    obtain ⟨t, rfl, rest⟩ := aligned.uncons parenthesis bracket last
    obtain ⟨t', rfl, final⟩ := ih (fun d member => ordinary d (List.mem_cons_of_mem c member)) rest
    exact ⟨t', rfl, final⟩

theorem takeUntil_mirrors (ends : numbers.Ends) {terminator : Char}
    (ordinary : isBracket terminator = false) (what : String)
    (aligned : Aligned numbers marks inside a.rest b.rest) {known : List Char → Bool}
    (plain : ∀ name, known name = true → ∀ c ∈ name, isBracket c = false ∧ c ≠ '\\')
    {after : γ → δ → Prop}
    {next : List Char × Input → Except Rejection γ} {next' : List Char × Input → Except Rejection δ}
    (valid : ∀ name x y, Aligned numbers marks inside x.rest y.rest →
      Mirrors False after (next (name, x)) (next' (name, y)))
    (invalid : ∀ name x, known name = false → Ensures (next (name, x)) fun _ => False) :
    Mirrors False after (a.takeUntil terminator what >>= next)
      (b.takeUntil terminator what >>= next') := by
  intro value returned
  obtain ⟨⟨name, x⟩, read, later⟩ := bind_eq_ok_iff.mp returned
  cases accepted : known name with
  | false => exact (invalid name x accepted value later).elim
  | true =>
    obtain ⟨-, -, -, -, nonempty⟩ := a.takeUntil_reads terminator what _ read
    obtain ⟨_, rfl, absent, text⟩ :=
      readUntil_plain _ read fun member => (plain name accepted _ member).2 rfl
    obtain ⟨_, there, ending⟩ :=
      uncons_name (fun c member => (plain name accepted c member).1) (text ▸ aligned)
    obtain ⟨parenthesis, bracket, last⟩ := not_isBracket ordinary
    obtain ⟨t, rfl, rest⟩ := ending.uncons parenthesis bracket last
    obtain ⟨place, read'⟩ : ∃ place, b.takeUntil terminator what = .ok (name, ⟨place, t⟩) := by
      rw [takeUntil, there]
      exact readUntil_name absent (rest.ne_dangling ends) [] b.position nonempty
    rw [read']
    exact valid name x ⟨place, t⟩ rest value later

end Input

end RuleLexer
