import Mathlib.Data.List.Forall2
import RuleLexer.Proofs.Regex.LocalLexemes

namespace RuleLexer

theorem Mirrors.of_ensures {ε α β : Type} {excused : Prop} {related : α → β → Prop} {value : α}
    {other : Except ε β} (returns : excused ∨ ∃ image, other = .ok image)
    (ensured : Ensures other (related value)) : Mirrors excused related (.ok value) other := by
  rintro _ ⟨⟩
  cases result : other with
  | ok image => exact .inr ⟨image, rfl, ensured image result⟩
  | error failure =>
    rcases returns with excuse | ⟨image, returned⟩
    · exact .inl ⟨excuse, failure, rfl⟩
    · rw [result] at returned
      cases returned

/-- How two parsers are compared. -/
structure Comparison where
  text : Input → Input → Prop
  offset : Nat
  /-- Groups whose widths may differ. -/
  loose : Nat → Prop
  /-- Levels, given by the kinds from there outwards, in which the trees have to be the same. -/
  exact : List LevelKind → Prop
  modes : Bool → Prop
  excused : Prop
  bottom : LevelKind
  base : List Level
  names : List (List Char × Nat)
  widths : List (Nat × Width)
  flags : Flags → Flags → Prop

/-- Looks at the text before and groups that are not loose are the same all through. A parser that
may not fail has met no names before. -/
structure Comparison.Fair (c : Comparison) : Prop where
  bottom : ∀ group, c.bottom ≠ .conditional group
  widths : ∀ entry ∈ c.widths, entry.1 < c.offset
  strict : c.excused ∨ c.names = []
  inside : ∀ kind kinds, c.exact kinds → c.exact (kind :: kinds)
  behind : ∀ negated outermost kinds, c.exact (.behind negated outermost :: kinds)
  capture : ∀ index kinds, ¬c.loose index → c.exact (.capture index :: kinds)
  suffix : ∀ x y, c.text x y → ∀ d, d = '?' ∨ d = '+' →
    Mirrors c.excused (fun a b => a.1 = b.1 ∧ c.text a.2 b.2) (x.accept d) (y.accept d)

namespace Regex

def canRepeat : Regex → Bool
  | .anchor _ | .repeated .. => false
  | _ => true

theorem canRepeat_shift (offset : Nat) (regex : Regex) :
    (regex.shift offset).canRepeat = regex.canRepeat := by
  cases regex <;> rfl

def Steady (loose : Nat → Prop) (regex : Regex) : Prop :=
  ∀ groups groups' : Nat → Width, (∀ index, ¬loose index → groups' index = groups index) →
    regex.width groups' = regex.width groups

namespace Steady

variable {loose : Nat → Prop}

theorem ofItems {items : List Regex} (steady : ∀ item ∈ items, item.Steady loose) :
    (Regex.ofItems items).Steady loose := by
  induction items with
  | nil => exact fun _ _ _ => rfl
  | cons item items ih =>
    cases items with
    | nil => exact steady item List.mem_cons_self
    | cons second others =>
      intro groups groups' same
      have first := steady item List.mem_cons_self groups groups' same
      have rest := ih (fun item member => steady item (List.mem_cons_of_mem _ member)) groups groups'
        same
      show (item.width groups').append ((Regex.ofItems (second :: others)).width groups') = _
      rw [first, rest]
      rfl

theorem ofAlternatives {choices : List Regex} (steady : ∀ choice ∈ choices, choice.Steady loose) :
    (Regex.ofAlternatives choices).Steady loose := by
  induction choices with
  | nil => exact fun _ _ _ => rfl
  | cons choice choices ih =>
    cases choices with
    | nil => exact steady choice List.mem_cons_self
    | cons second others =>
      intro groups groups' same
      have first := steady choice List.mem_cons_self groups groups' same
      have rest := ih (fun choice member => steady choice (List.mem_cons_of_mem _ member)) groups
        groups' same
      show (choice.width groups').join ((Regex.ofAlternatives (second :: others)).width groups') = _
      rw [first, rest]
      rfl

theorem repeated {item : Regex} (steady : item.Steady loose) (greed : Greed) (least : Nat)
    (most : Option Nat) : (Regex.repeated greed least most item).Steady loose := by
  intro groups groups' same
  simp only [width, steady groups groups' same]

theorem backref {index : Nat} (tight : ¬loose index) : (Regex.backref index).Steady loose :=
  fun _ _ same => same index tight

theorem of_leaf {regex : Regex} (leaf : ∀ offset, regex.shift offset = regex) :
    regex.Steady loose := by
  have free := leaf 1
  clear leaf
  intro groups groups' same
  induction regex <;> simp_all [shift, width]

end Steady

variable {c : Comparison} {exact wider : Prop} {regex regex' : Regex}

/-- The second tree passes the checks that the first one passes, and is the same with shifted groups
where it has to be. -/
structure Shadows (c : Comparison) (exact : Prop) (regex regex' : Regex) : Prop where
  checks : ∀ template, regex.check template = .ok () → regex'.check template = .ok ()
  shifts : exact → regex' = regex.shift c.offset ∧ regex.Steady c.loose

theorem Shadows.of_shift (steady : exact → regex.Steady c.loose) :
    Shadows c exact regex (regex.shift c.offset) where
  checks template passed := by rwa [check_shift]
  shifts given := ⟨rfl, steady given⟩

theorem Shadows.mono (shadows : Shadows c exact regex regex') (narrow : wider → exact) :
    Shadows c wider regex regex' :=
  ⟨shadows.checks, fun given => shadows.shifts (narrow given)⟩

theorem Shadows.group (shadows : Shadows c exact regex regex') (index : Nat) :
    Shadows c exact (.group index regex) (.group (index + c.offset) regex') where
  checks := shadows.checks
  shifts given := by
    obtain ⟨rfl, steady⟩ := shadows.shifts given
    exact ⟨rfl, steady⟩

theorem Shadows.scoped (shadows : Shadows c exact regex regex') (on off : Flags) :
    Shadows c exact (.scoped on off regex) (.scoped on off regex') where
  checks := shadows.checks
  shifts given := by
    obtain ⟨rfl, steady⟩ := shadows.shifts given
    exact ⟨rfl, steady⟩

theorem Shadows.atomic (shadows : Shadows c exact regex regex') :
    Shadows c exact (.atomic regex) (.atomic regex') where
  checks := shadows.checks
  shifts given := by
    obtain ⟨rfl, steady⟩ := shadows.shifts given
    exact ⟨rfl, steady⟩

theorem Shadows.ahead (shadows : Shadows c exact regex regex') (negated : Bool) :
    Shadows c exact (.ahead negated regex) (.ahead negated regex') where
  checks := shadows.checks
  shifts given := by
    obtain ⟨rfl, -⟩ := shadows.shifts given
    exact ⟨rfl, fun _ _ _ => rfl⟩

theorem Shadows.conditional {other other' : Regex} (shadows : Shadows c exact regex regex')
    (shadows' : Shadows c exact other other') (group : Nat) :
    Shadows c exact (.conditional group regex other)
      (.conditional (group + c.offset) regex' other') where
  checks template passed := by
    obtain ⟨yes, no⟩ := check_seq.mp passed
    exact check_seq.mpr ⟨shadows.checks template yes, shadows'.checks template no⟩
  shifts given := by
    obtain ⟨rfl, steady⟩ := shadows.shifts given
    obtain ⟨rfl, steady'⟩ := shadows'.shifts given
    refine ⟨rfl, fun groups groups' same => ?_⟩
    simp only [width, steady groups groups' same, steady' groups groups' same]

theorem Shadows.ofAlternatives {choices choices' : List Regex}
    (follow : List.Forall₂ (Shadows c exact) choices choices') :
    Shadows c exact (ofAlternatives choices) (ofAlternatives choices') where
  checks := by
    intro template passed
    rw [check_ofAlternatives_iff] at passed ⊢
    induction follow with
    | nil => exact nofun
    | cons first _ ih =>
      obtain ⟨own, rest⟩ := List.forall_mem_cons.mp passed
      exact List.forall_mem_cons.mpr ⟨first.checks template own, ih rest⟩
  shifts := by
    intro given
    have all : choices' = choices.map (shift c.offset) ∧ ∀ choice ∈ choices, choice.Steady c.loose := by
      induction follow with
      | nil => exact ⟨rfl, nofun⟩
      | cons first _ ih =>
        obtain ⟨shifted, steady⟩ := first.shifts given
        exact ⟨by rw [shifted, ih.1, List.map_cons], List.forall_mem_cons.mpr ⟨steady, ih.2⟩⟩
    exact ⟨by rw [all.1, shift_ofAlternatives], .ofAlternatives all.2⟩

end Regex

namespace LevelKind

def shift (offset : Nat) : LevelKind → LevelKind
  | .capture index => .capture (index + offset)
  | .conditional group => .conditional (group + offset)
  | kind => kind

def isConditional : LevelKind → Bool
  | .conditional _ => true
  | _ => false

theorem isConditional_shift (offset : Nat) (kind : LevelKind) :
    (kind.shift offset).isConditional = kind.isConditional := by
  cases kind <;> rfl

end LevelKind

namespace Level

structure Shadows (c : Comparison) (exact : Prop) (level level' : Level) : Prop where
  verbose : level'.verbose = level.verbose
  mode : c.modes level.verbose
  finished : List.Forall₂ (Regex.Shadows c exact) level.finished level'.finished
  last : level'.items.head?.map Regex.canRepeat = level.items.head?.map Regex.canRepeat
  checks : ∀ template, (∀ item ∈ level.items, item.check template = .ok ()) →
    ∀ item ∈ level'.items, item.check template = .ok ()
  shifts : exact → level'.items = level.items.map (Regex.shift c.offset) ∧
    ∀ item ∈ level.items, item.Steady c.loose

namespace Shadows

variable {c : Comparison} {exact : Prop} {level level' : Level}

theorem empty (kind kind' : LevelKind) (start start' : Nat) {verbose : Bool}
    (mode : c.modes verbose) :
    Shadows c exact ⟨kind, start, verbose, [], []⟩ ⟨kind', start', verbose, [], []⟩ :=
  ⟨rfl, mode, .nil, rfl, fun _ _ => nofun, fun _ => ⟨rfl, nofun⟩⟩

theorem push (shadows : Shadows c exact level level') {item item' : Regex}
    (same : item.Shadows c exact item') (can : item'.canRepeat = item.canRepeat) :
    Shadows c exact (level.push item) (level'.push item') where
  verbose := shadows.verbose
  mode := shadows.mode
  finished := shadows.finished
  last := congrArg some can
  checks := by
    intro template passed
    obtain ⟨first, rest⟩ := List.forall_mem_cons.mp passed
    exact List.forall_mem_cons.mpr ⟨same.checks template first, shadows.checks template rest⟩
  shifts := by
    intro given
    obtain ⟨items, steady⟩ := shadows.shifts given
    obtain ⟨item, own⟩ := same.shifts given
    exact ⟨by simp [Level.push, items, item], List.forall_mem_cons.mpr ⟨own, steady⟩⟩

theorem append (shadows : Shadows c exact level level') (loosely : ¬exact) {item : Regex}
    {items : List Regex} (some : items ≠ []) (plain : ∀ other ∈ items, other.canRepeat = true ∧
      ∀ template, other.check template = .ok ()) (can : item.canRepeat = true) :
    Shadows c exact (level.push item) { level' with items := items ++ level'.items } where
  verbose := shadows.verbose
  mode := shadows.mode
  finished := shadows.finished
  last := by
    obtain ⟨first, others, rfl⟩ := List.exists_cons_of_ne_nil some
    simp [Level.push, can, (plain first List.mem_cons_self).1]
  checks := by
    intro template passed other member
    obtain ⟨-, rest⟩ := List.forall_mem_cons.mp passed
    rcases List.mem_append.mp member with new | old
    · exact (plain other new).2 template
    · exact shadows.checks template rest other old
  shifts given := absurd given loosely

theorem repeated (shadows : Shadows c exact level level') {item item' : Regex}
    {items items' : List Regex} (here : level.items = item :: items)
    (there : level'.items = item' :: items') (greed : Greed) (least : Nat) (most : Option Nat) :
    Shadows c exact { level with items := .repeated greed least most item :: items }
      { level' with items := .repeated greed least most item' :: items' } where
  verbose := shadows.verbose
  mode := shadows.mode
  finished := shadows.finished
  last := rfl
  checks := by
    intro template passed
    have before := shadows.checks template
    rw [here, there, List.forall_mem_cons, List.forall_mem_cons] at before
    obtain ⟨first, rest⟩ := List.forall_mem_cons.mp passed
    obtain ⟨plain, body⟩ := Regex.check_repeated.mp first
    obtain ⟨body', rest'⟩ := before ⟨body, rest⟩
    exact List.forall_mem_cons.mpr ⟨Regex.check_repeated.mpr ⟨plain, body'⟩, rest'⟩
  shifts := by
    intro given
    obtain ⟨shifted, steady⟩ := shadows.shifts given
    rw [here, there, List.map_cons] at shifted
    obtain ⟨rfl, rfl⟩ := List.cons.inj shifted
    rw [here, List.forall_mem_cons] at steady
    exact ⟨rfl, List.forall_mem_cons.mpr ⟨steady.1.repeated greed least most, steady.2⟩⟩

theorem current (shadows : Shadows c exact level level') :
    level.current.Shadows c exact level'.current where
  checks := by
    intro template passed
    have passed := Regex.check_ofItems_iff.mp passed
    refine Regex.check_ofItems_iff.mpr fun item member => ?_
    refine shadows.checks template (fun item member => ?_) item (List.mem_reverse.mp member)
    exact passed item (List.mem_reverse.mpr member)
  shifts := by
    intro given
    obtain ⟨items, steady⟩ := shadows.shifts given
    refine ⟨?_, .ofItems fun item member => steady item (List.mem_reverse.mp member)⟩
    rw [Level.current, Level.current, Regex.shift_ofItems, items, List.map_reverse]

theorem bar (shadows : Shadows c exact level level') :
    Shadows c exact { level with finished := level.current :: level.finished, items := [] }
      { level' with finished := level'.current :: level'.finished, items := [] } :=
  ⟨shadows.verbose, shadows.mode, .cons shadows.current shadows.finished, rfl, fun _ _ => nofun,
    fun _ => ⟨rfl, nofun⟩⟩

theorem body (shadows : Shadows c exact level level') :
    level.body.Shadows c exact level'.body :=
  .ofAlternatives (List.rel_append (List.rel_reverse shadows.finished) (.cons shadows.current .nil))

end Shadows

end Level

inductive Stack (c : Comparison) : List Level → List Level → Prop
  | bottom {level level' : Level} (same : level.Shadows c (c.exact [level.kind]) level')
    (whole : level.kind = .whole) (kind : level'.kind = c.bottom) :
    Stack c [level] (level' :: c.base)
  | inner {level level' : Level} {around around' : List Level}
    (same : level.Shadows c (c.exact (level.kind :: around.map Level.kind)) level')
    (inside : level.kind ≠ .whole) (kind : level'.kind = level.kind.shift c.offset)
    (rest : Stack c around around') : Stack c (level :: around) (level' :: around')

namespace Stack

variable {c : Comparison} {level level' : Level} {outer outer' : List Level}

theorem top (stack : Stack c (level :: outer) (level' :: outer')) :
    level.Shadows c (c.exact ((level :: outer).map Level.kind)) level' := by
  cases stack with
  | bottom same => exact same
  | inner same => exact same

theorem replace (stack : Stack c (level :: outer) (level' :: outer')) {other other' : Level}
    (same : other.Shadows c (c.exact ((level :: outer).map Level.kind)) other')
    (kind : other.kind = level.kind) (kind' : other'.kind = level'.kind) :
    Stack c (other :: outer) (other' :: outer') := by
  rw [List.map_cons, ← kind] at same
  cases stack with
  | bottom _ whole bottom => exact .bottom same (kind.trans whole) (kind'.trans bottom)
  | inner _ inside shifted rest =>
    exact .inner same (kind ▸ inside) (by rw [kind', shifted, kind]) rest

theorem outermost (stack : Stack c [level] (level' :: outer')) :
    outer' = c.base ∧ level'.kind = c.bottom := by
  cases stack with
  | bottom _ _ kind => exact ⟨rfl, kind⟩
  | inner _ _ _ rest => cases rest

theorem around {next : Level} {inner : List Level}
    (stack : Stack c (level :: next :: outer) (level' :: inner)) :
    level.kind ≠ .whole ∧ level'.kind = level.kind.shift c.offset ∧
      ∃ next' outer', inner = next' :: outer' ∧ Stack c (next :: outer) (next' :: outer') := by
  cases stack with
  | inner _ inside kind rest =>
    refine ⟨inside, kind, ?_⟩
    cases rest with
    | bottom same whole kind => exact ⟨_, _, rfl, .bottom same whole kind⟩
    | inner same inside kind rest => exact ⟨_, _, rfl, .inner same inside kind rest⟩

theorem isConditional_eq (fair : c.Fair) (stack : Stack c (level :: outer) (level' :: outer')) :
    level'.kind.isConditional = level.kind.isConditional := by
  cases stack with
  | bottom _ whole kind =>
    rw [whole, kind]
    cases bottom : c.bottom with
    | conditional group => exact absurd bottom (fair.bottom group)
    | _ => rfl
  | inner _ _ kind _ => rw [kind, LevelKind.isConditional_shift]

end Stack

namespace Parser

theorem pushQuantifier_of_canRepeat {parser : Parser} {item : Regex} {items : List Regex}
    (last : parser.level.items = item :: items) (can : item.canRepeat = true) (least : Nat)
    (most : Option Nat) (start : Nat) : parser.pushQuantifier least most start = (do
      let (lazy, input) ← parser.input.accept '?'
      let (possessive, input) ← if lazy then .ok (false, input) else input.accept '+'
      let greed : Greed := if lazy then .lazy else if possessive then .possessive else .greedy
      return { parser with
        input
        level := { parser.level with items := .repeated greed least most item :: items } }) := by
  unfold pushQuantifier
  rw [last]
  cases item <;> first | rfl | cases can

theorem pushQuantifier_item (parser : Parser) (least : Nat) (most : Option Nat) (start : Nat) :
    Ensures (parser.pushQuantifier least most start) fun _ =>
      ∃ item items, parser.level.items = item :: items ∧ item.canRepeat = true := by
  unfold pushQuantifier
  split
  · exact .error
  · exact .error
  · exact .error
  · next item items anchor repeated last =>
    refine fun _ _ => ⟨item, items, last, ?_⟩
    unfold Regex.canRepeat
    split
    · exact absurd rfl (anchor _)
    · exact absurd rfl (repeated _ _ _ _)
    · rfl

theorem pushBar_eq (parser : Parser) (rest : List Piece) : parser.pushBar rest =
    if parser.level.kind.isConditional && !parser.level.finished.isEmpty then
      .error (Fault.thirdBranch.at parser.input.position)
    else Input.goTo (parser.input.position + 1) rest >>= fun input => .ok { parser with
      input
      level := { parser.level with
        finished := parser.level.current :: parser.level.finished, items := [] } } := by
  unfold pushBar
  dsimp only
  split
  · next group kind =>
    rw [kind]
    cases parser.level.finished.isEmpty <;> rfl
  · next other =>
    have plain : parser.level.kind.isConditional = false := by
      cases kind : parser.level.kind with
      | conditional group => exact absurd kind (other group)
      | _ => rfl
    rw [plain]
    rfl

/-- The second parser has read what the first one has. -/
structure Shadows (c : Comparison) (p q : Parser) : Prop where
  text : c.text p.input q.input
  stack : Stack c (p.level :: p.outer) (q.level :: q.outer)
  groups : q.groups = p.groups + c.offset
  names : q.names = p.names.map (fun (name, group) => (name, group + c.offset)) ++ c.names
  widths : ∃ own, q.widths = own ++ c.widths ∧ List.Forall₂ (fun entry entry' =>
    entry'.1 = entry.1 + c.offset ∧ (¬c.loose entry.1 → entry'.2 = entry.2)) p.widths own
  lookbehind : q.lookbehind = p.lookbehind.map (· + c.offset)
  conditions : c.excused ∨ ∀ number ∈ q.conditionNumbers,
    number ≤ c.offset ∨ ∃ own ∈ p.conditionNumbers, number = own + c.offset
  flags : c.flags p.flags q.flags

namespace Shadows

variable {c : Comparison} {p q : Parser}

theorem within (shadows : Shadows c p q) {x y : Input} {level level' : Level}
    (text : c.text x y) (same : level.Shadows c (c.exact p.kinds) level')
    (kind : level.kind = p.level.kind) (kind' : level'.kind = q.level.kind) :
    Shadows c { p with input := x, level } { q with input := y, level := level' } :=
  { shadows with text, stack := shadows.stack.replace same kind kind' }

theorem onward (shadows : Shadows c p q) {x y : Input} (text : c.text x y) :
    Shadows c { p with input := x } { q with input := y } :=
  { shadows with text }

theorem push (shadows : Shadows c p q) {item item' : Regex}
    (same : item.Shadows c (c.exact p.kinds) item') (can : item'.canRepeat = item.canRepeat) :
    Shadows c (p.push item) (q.push item') :=
  shadows.within shadows.text (shadows.stack.top.push same can) rfl rfl

theorem push_shift (shadows : Shadows c p q) {item : Regex}
    (steady : c.exact p.kinds → item.Steady c.loose) :
    Shadows c (p.push item) (q.push (item.shift c.offset)) :=
  shadows.push (.of_shift steady) (Regex.canRepeat_shift c.offset item)

theorem openLevel (shadows : Shadows c p q) (kind : LevelKind) (inside : kind ≠ .whole)
    {kind' : LevelKind} (same : kind' = kind.shift c.offset) (start start' : Nat) {verbose : Bool}
    (mode : c.modes verbose) :
    Shadows c (p.openLevel kind start verbose) (q.openLevel kind' start' verbose) :=
  { shadows with stack := .inner (.empty _ _ _ _ mode) inside same shadows.stack }

theorem lookup_widths (fair : c.Fair) (shadows : Shadows c p q) (group : Nat) :
    (q.widths.lookup (group + c.offset)).isSome = (p.widths.lookup group).isSome ∧
      (¬c.loose group → q.widths.lookup (group + c.offset) = p.widths.lookup group) := by
  have none : c.widths.lookup (group + c.offset) = none := by
    refine List.lookup_eq_none_iff.mpr fun entry member => ?_
    have before := fair.widths entry member
    have other : group + c.offset ≠ entry.1 := by omega
    simpa using other
  obtain ⟨own, split, same⟩ := shadows.widths
  rw [split, List.lookup_append, none, Option.or_none]
  clear split
  generalize p.widths = known at same ⊢
  induction same with
  | nil => exact ⟨rfl, fun _ => rfl⟩
  | @cons entry entry' _ _ first _ ih =>
    obtain ⟨index, width⟩ := entry
    obtain ⟨index', width'⟩ := entry'
    obtain ⟨rfl, first⟩ := first
    have key : (group + c.offset == index + c.offset) = (group == index) := by
      rw [Bool.eq_iff_iff, beq_iff_eq, beq_iff_eq]
      omega
    rw [List.lookup_cons, List.lookup_cons, key]
    by_cases here : group = index
    · subst here
      simp only [beq_self_eq_true]
      exact ⟨rfl, fun tight => congrArg some (first tight)⟩
    · rw [beq_eq_false_iff_ne.mpr here]
      exact ih

theorem widths_le {last : Nat} (shadows : Shadows c p q) (known : ∀ entry ∈ p.widths, entry.1 ≤ last) :
    ∀ entry ∈ q.widths, entry.1 ≤ last + c.offset ∨ entry ∈ c.widths := by
  obtain ⟨own, split, same⟩ := shadows.widths
  rw [split]
  intro entry member
  refine (List.mem_append.mp member).imp_left fun inside => ?_
  clear split member
  generalize p.widths = before at known same
  induction same with
  | nil => cases inside
  | cons first _ ih =>
    obtain ⟨bound, known⟩ := List.forall_mem_cons.mp known
    rcases List.mem_cons.mp inside with rfl | inside
    · have shifted := first.1
      omega
    · exact ih inside known

theorem isClosed_eq (fair : c.Fair) (shadows : Shadows c p q) (group : Nat) :
    q.isClosed (group + c.offset) = p.isClosed group :=
  (shadows.lookup_widths fair group).1

theorem widthOf_eq (fair : c.Fair) (shadows : Shadows c p q) {group : Nat}
    (tight : ¬c.loose group) : q.widthOf (group + c.offset) = p.widthOf group := by
  rw [widthOf, widthOf, (shadows.lookup_widths fair group).2 tight]

theorem width_eq (fair : c.Fair) (shadows : Shadows c p q) {regex : Regex}
    (steady : regex.Steady c.loose) :
    (regex.shift c.offset).width q.widthOf = regex.width p.widthOf := by
  have unshifted : (regex.shift c.offset).width q.widthOf =
      regex.width fun group => q.widthOf (group + c.offset) := Regex.width_shift (fun _ => rfl) regex
  rw [unshifted]
  exact steady _ _ fun group tight => shadows.widthOf_eq fair tight

theorem checkLookbehind (fair : c.Fair) (shadows : Shadows c p q) (group : Nat) :
    Mirrors c.excused (fun _ _ => True) (p.checkLookbehind group)
      (q.checkLookbehind (group + c.offset)) := by
  unfold Parser.checkLookbehind
  rw [shadows.lookbehind, shadows.isClosed_eq fair]
  cases p.lookbehind with
  | none => exact .ok trivial
  | some before =>
    dsimp only [Option.map_some]
    split
    · exact .error
    · simp only [Nat.add_lt_add_iff_right]
      split
      · exact .error
      · exact .ok trivial

theorem pushReference (fair : c.Fair) (shadows : Shadows c p q) {group : Nat}
    (tight : c.exact p.kinds → ¬c.loose group) (start start' : Nat) :
    Mirrors c.excused (Shadows c) (p.pushReference group start)
      (q.pushReference (group + c.offset) start') := by
  unfold Parser.pushReference
  rw [shadows.groups, shadows.isClosed_eq fair]
  simp only [Nat.add_lt_add_iff_right]
  split
  · exact .error
  split
  · exact .error
  · exact (shadows.checkLookbehind fair group).bind fun _ _ _ =>
      .ok (shadows.push_shift fun given => .backref (tight given))

theorem lookup_names (shadows : Shadows c p q) (name : List Char) :
    q.names.lookup name = ((p.names.lookup name).map (· + c.offset)).or (c.names.lookup name) := by
  rw [shadows.names, List.lookup_append]
  congr 1
  induction p.names with
  | nil => rfl
  | cons entry entries ih =>
    obtain ⟨known, group⟩ := entry
    simp only [List.map_cons, List.lookup_cons, ih]
    cases name == known <;> rfl

theorem pushNamedReference (fair : c.Fair) (shadows : Shadows c p q) {name : List Char}
    (tight : ∀ group, p.names.lookup name = some group → c.exact p.kinds → ¬c.loose group) :
    Mirrors c.excused (Shadows c) (p.pushNamedReference name) (q.pushNamedReference name) := by
  unfold Parser.pushNamedReference
  rw [shadows.lookup_names]
  cases known : p.names.lookup name with
  | none => exact .error
  | some group =>
    dsimp only [Option.map_some, Option.some_or]
    rw [shadows.isClosed_eq fair]
    split
    · exact .error
    · exact (shadows.checkLookbehind fair group).bind fun _ _ _ =>
        .ok (shadows.push_shift fun given => .backref (tight group known given))

theorem pushQuantifier (fair : c.Fair) (shadows : Shadows c p q) (least : Nat) (most : Option Nat)
    (start start' : Nat) : Mirrors c.excused (Shadows c) (p.pushQuantifier least most start)
      (q.pushQuantifier least most start') := by
  intro next returned
  obtain ⟨item, items, last, can⟩ := p.pushQuantifier_item least most start next returned
  have same := shadows.stack.top
  have head := same.last
  rw [last] at head
  obtain ⟨item', items', last', can'⟩ : ∃ item' items', q.level.items = item' :: items' ∧
      item'.canRepeat = true := by
    cases there : q.level.items with
    | nil => simp [there] at head
    | cons item' items' =>
      refine ⟨item', items', rfl, ?_⟩
      simpa [there, can] using head
  revert next returned
  rw [pushQuantifier_of_canRepeat last can, pushQuantifier_of_canRepeat last' can']
  refine (fair.suffix _ _ shadows.text '?' (.inl rfl)).bind ?_
  rintro ⟨lazy, x⟩ ⟨_, y⟩ ⟨rfl, text⟩
  have greed : Mirrors c.excused (fun x y => x.1 = y.1 ∧ c.text x.2 y.2)
      (if lazy then .ok (false, x) else x.accept '+')
      (if lazy then .ok (false, y) else y.accept '+') := by
    split
    · exact .ok ⟨rfl, text⟩
    · exact fair.suffix x y text '+' (.inr rfl)
  refine greed.branch ?_
  rintro ⟨possessive, x⟩ ⟨_, y⟩ ⟨rfl, text⟩
  exact .ok (shadows.within text (same.repeated last last' _ least most) rfl rfl)

theorem openGroup (fair : c.Fair) (shadows : Shadows c p q) (name : Option (List Char)) :
    Mirrors c.excused (fun next next' => next.groups = p.groups + 1 ∧ next.level = p.level ∧
        Shadows c next next') (p.openGroup name) (q.openGroup name) := by
  have groups : q.groups + 1 = p.groups + 1 + c.offset := by
    rw [shadows.groups]
    omega
  cases name with
  | none => exact .ok ⟨rfl, rfl, { shadows with groups }⟩
  | some name =>
    unfold Parser.openGroup
    dsimp only
    rw [shadows.lookup_names]
    cases p.names.lookup name with
    | some earlier => exact .error
    | none =>
      dsimp only [Option.map_none, Option.none_or]
      refine .of_ensures ?_ ?_
      · rcases fair.strict with excuse | none
        · exact .inl excuse
        · exact .inr ⟨_, by rw [none]; rfl⟩
      · split
        · exact .error
        · refine .ok ⟨rfl, rfl, { shadows with groups, names := ?_ }⟩
          simp [shadows.names, shadows.groups]
          omega

theorem openBehind (shadows : Shadows c p q) (negated : Bool) (start start' : Nat) {verbose : Bool}
    (mode : c.modes verbose) :
    Shadows c
      (Parser.openLevel
        (if p.lookbehind.isNone then { p with lookbehind := some p.groups } else p)
        (.behind negated p.lookbehind.isNone) start verbose)
      (Parser.openLevel
        (if q.lookbehind.isNone then { q with lookbehind := some q.groups } else q)
        (.behind negated q.lookbehind.isNone) start' verbose) := by
  have outermost : q.lookbehind.isNone = p.lookbehind.isNone := by
    rw [shadows.lookbehind, Option.isNone_map]
  rw [outermost]
  refine openLevel ?_ (.behind _ _) nofun rfl start start' mode
  split
  · exact { shadows with lookbehind := by simp [shadows.groups] }
  · exact shadows

def Noted (c : Comparison) (p q : Parser) (noted noted' : Parser × Nat) : Prop :=
  noted'.2 = noted.2 + c.offset ∧ noted.1.level = p.level ∧ noted'.1.level = q.level ∧
    Shadows c noted.1 noted'.1

theorem keeping (shadows : Shadows c p q) (group place place' : Nat) :
    Noted c p q (p.keeping group place, group)
      (q.keeping (group + c.offset) place', group + c.offset) := by
  have numbers := @mem_conditionNumbers_keeping p group place
  have numbers' := @mem_conditionNumbers_keeping q (group + c.offset) place'
  obtain ⟨conditions, kept⟩ := p.keeping_eq group place
  obtain ⟨conditions', kept'⟩ := q.keeping_eq (group + c.offset) place'
  rw [kept] at numbers ⊢
  rw [kept'] at numbers' ⊢
  refine ⟨rfl, rfl, rfl, { shadows with conditions := ?_ }⟩
  rcases shadows.conditions with excuse | before
  · exact .inl excuse
  · refine .inr fun number member => ?_
    rcases numbers'.mp member with rfl | there
    · exact .inr ⟨_, numbers.mpr (.inl rfl), rfl⟩
    · refine (before number there).imp_right ?_
      rintro ⟨own, known, same⟩
      exact ⟨own, numbers.mpr (.inr known), same⟩

theorem condition (shadows : Shadows c p q) {name name' : List Char}
    (digits : name.all Char.isDigit = true) (digits' : name'.all Char.isDigit = true)
    (some : name ≠ []) (some' : name' ≠ [])
    (value : Number.valueOf name' = Number.valueOf name + c.offset)
    (range : c.excused ∨ Parser.InRange name') :
    Mirrors c.excused (Noted c p q) (p.condition name) (q.condition name') := by
  cases result : p.condition name with
  | error failure => exact .error
  | ok noted =>
    obtain ⟨-, positive, rfl⟩ := (condition_eq_ok_iff digits some).mp result
    refine .of_ensures ?_ ?_
    · rcases range with excuse | range
      · exact .inl excuse
      · exact .inr ⟨_, (condition_eq_ok_iff digits' some').mpr ⟨range, by omega, rfl⟩⟩
    · intro noted' returned'
      obtain ⟨-, -, rfl⟩ := (condition_eq_ok_iff digits' some').mp returned'
      rw [noting, noting, value]
      exact shadows.keeping _ _ _

theorem namedCondition (shadows : Shadows c p q) {name : List Char}
    (identifier : Text.isIdentifier name = true) :
    Mirrors c.excused (Noted c p q) (p.condition name) (q.condition name) := by
  rintro ⟨noted, group⟩ returned
  obtain ⟨known, rfl⟩ := (condition_of_identifier identifier).mp returned
  have known' : q.names.lookup name = some (group + c.offset) := by
    rw [shadows.lookup_names, known]
    rfl
  exact .inr ⟨(q, group + c.offset), (condition_of_identifier identifier).mpr ⟨known', rfl⟩, rfl,
    rfl, rfl, shadows⟩

theorem sameCondition (shadows : Shadows c p q) (first : c.offset = 0) (name : List Char) :
    Mirrors c.excused (Noted c p q) (p.condition name) (q.condition name) := by
  cases other : Text.isIdentifier name with
  | true => exact shadows.namedCondition other
  | false =>
    intro noted returned
    obtain ⟨group, read, within, rfl⟩ := (condition_of_number other).mp returned
    have kept := shadows.keeping (group + 1) (p.namePlace name) (q.namePlace name)
    rw [first] at kept
    exact .inr ⟨_, (condition_of_number other).mpr ⟨group, read, within, rfl⟩, kept⟩

end Shadows

end Parser

inductive Lexeme.Shadows (c : Comparison) (parser : Parser) : Lexeme → Lexeme → Prop
  | blank : Shadows c parser .blank .blank
  | item {regex : Regex} (leaf : ∀ offset, regex.shift offset = regex) :
    Shadows c parser (.item regex) (.item regex)
  | quantifier {least : Nat} {most : Option Nat} :
    Shadows c parser (.quantifier least most) (.quantifier least most)
  | reference {group : Nat} (tight : c.exact parser.kinds → ¬c.loose group) :
    Shadows c parser (.reference group) (.reference (group + c.offset))
  | namedReference {name : List Char} (tight : ∀ group, parser.names.lookup name = some group →
    c.exact parser.kinds → ¬c.loose group) :
    Shadows c parser (.namedReference name) (.namedReference name)
  | opening {opening : Opening} (unconditional : ∀ name, opening ≠ .condition name)
    (modes : ∀ on off, opening = .scoped on off → ∀ verbose, c.modes verbose →
      c.modes ((verbose || on.has .verbose) && !off.has .verbose)) :
    Shadows c parser (.opening opening) (.opening opening)
  | condition {name name' : List Char} (digits : name.all Char.isDigit = true)
    (digits' : name'.all Char.isDigit = true) (some : name ≠ []) (some' : name' ≠ [])
    (value : Number.valueOf name' = Number.valueOf name + c.offset)
    (range : c.excused ∨ Parser.InRange name') :
    Shadows c parser (.opening (.condition name)) (.opening (.condition name'))
  | namedCondition {name : List Char} (identifier : Text.isIdentifier name = true) :
    Shadows c parser (.opening (.condition name)) (.opening (.condition name))
  | sameCondition {name : List Char} (first : c.offset = 0) :
    Shadows c parser (.opening (.condition name)) (.opening (.condition name))

namespace Parser

namespace Shadows

variable {c : Comparison} {p q : Parser}

theorem pushCondition (fair : c.Fair) {name name' : List Char} (shadows : Shadows c p q)
    (noted : Mirrors c.excused (Noted c p q) (p.condition name) (q.condition name'))
    (start start' : Nat) :
    Mirrors c.excused (Shadows c) (p.pushOpening (.condition name) start)
      (q.pushOpening (.condition name') start') := by
  have mode := shadows.stack.top.mode
  unfold Parser.pushOpening
  rw [shadows.stack.top.verbose]
  refine noted.bind ?_
  rintro ⟨next, group⟩ ⟨next', _⟩ ⟨rfl, -, -, noted⟩
  refine (noted.checkLookbehind fair group).bind fun _ _ _ => ?_
  exact .ok (noted.openLevel (.conditional group) nofun rfl start start' mode)

theorem pushOpening (fair : c.Fair) (shadows : Shadows c p q) {opening : Opening}
    (unconditional : ∀ name, opening ≠ .condition name)
    (modes : ∀ on off, opening = .scoped on off → ∀ verbose, c.modes verbose →
      c.modes ((verbose || on.has .verbose) && !off.has .verbose)) (start start' : Nat) :
    Mirrors c.excused (Shadows c) (p.pushOpening opening start) (q.pushOpening opening start') := by
  have verbose := shadows.stack.top.verbose
  have mode := shadows.stack.top.mode
  cases opening with
  | capture name =>
    refine (shadows.openGroup fair name).bind fun next next' opened => ?_
    obtain ⟨groups, level, opened⟩ := opened
    rw [verbose]
    refine .ok (opened.openLevel (.capture _) (by simp) ?_ start start' mode)
    rw [opened.groups]
    rfl
  | «scoped» on off =>
    simp only [Parser.pushOpening, verbose]
    exact .ok (shadows.openLevel (.scoped on off) (by simp) rfl start start' (modes on off rfl _ mode))
  | atomic =>
    simp only [Parser.pushOpening, verbose]
    exact .ok (shadows.openLevel .atomic (by simp) rfl start start' mode)
  | ahead negated =>
    simp only [Parser.pushOpening, verbose]
    exact .ok (shadows.openLevel (.ahead negated) (by simp) rfl start start' mode)
  | behind negated =>
    simp only [Parser.pushOpening, verbose]
    exact .ok (shadows.openBehind negated start start' mode)
  | condition name => exact absurd rfl (unconditional name)

theorem pushLexeme (fair : c.Fair) (shadows : Shadows c p q) {lexeme lexeme' : Lexeme}
    (same : lexeme.Shadows c p lexeme') (start start' : Nat) :
    Mirrors c.excused (Shadows c) (p.pushLexeme start lexeme) (q.pushLexeme start' lexeme') := by
  cases same with
  | blank => exact .ok shadows
  | @item regex leaf =>
    have pushed := shadows.push_shift fun _ => Regex.Steady.of_leaf leaf
    rw [leaf] at pushed
    exact .ok pushed
  | quantifier => exact shadows.pushQuantifier fair _ _ start start'
  | reference tight => exact shadows.pushReference fair tight start start'
  | namedReference tight => exact shadows.pushNamedReference fair tight
  | opening unconditional modes => exact shadows.pushOpening fair unconditional modes start start'
  | condition digits digits' some some' value range =>
    exact shadows.pushCondition fair (shadows.condition digits digits' some some' value range) _ _
  | namedCondition identifier => exact shadows.pushCondition fair (shadows.namedCondition identifier) _ _
  | sameCondition first => exact shadows.pushCondition fair (shadows.sameCondition first _) _ _

theorem pushBar (fair : c.Fair) (shadows : Shadows c p q) {rest rest' : List Piece}
    (more : rest' ≠ [.dangling]) (text : ∀ x y : Input, x.rest = rest → y.rest = rest' → c.text x y) :
    Mirrors c.excused (Shadows c) (p.pushBar rest) (q.pushBar rest') := by
  have same := shadows.stack.top
  have first : q.level.finished.isEmpty = p.level.finished.isEmpty := by
    have finished := same.finished
    generalize p.level.finished = choices, q.level.finished = choices' at finished ⊢
    cases finished <;> rfl
  rw [pushBar_eq, pushBar_eq, shadows.stack.isConditional_eq fair, first]
  split
  · exact .error
  · refine (Input.goTo_mirrors more _ _).excuse.bind fun x y onward => ?_
    exact .ok (shadows.within (text x y onward.1 onward.2) same.bar rfl rfl)

theorem closedItem (fair : c.Fair) (shadows : Shadows c p q) (inside : p.level.kind ≠ .whole)
    (kind : q.level.kind = p.level.kind.shift c.offset) :
    p.closedItem.Shadows c (c.exact p.kinds) q.closedItem := by
  have same := shadows.stack.top
  have body : p.level.body.Shadows c (c.exact p.kinds) q.level.body := same.body
  have current : p.level.current.Shadows c (c.exact p.kinds) q.level.current := same.current
  have finished : List.Forall₂ (Regex.Shadows c (c.exact p.kinds)) p.level.finished
    q.level.finished := same.finished
  unfold Parser.closedItem
  dsimp only
  rw [kind]
  cases shape : p.level.kind with
  | whole => exact absurd shape inside
  | capture index => exact body.group index
  | «scoped» on off => exact body.scoped on off
  | atomic => exact body.atomic
  | ahead negated => exact body.ahead negated
  | behind negated outermost =>
    have given : c.exact p.kinds := by
      rw [kinds, List.map_cons, shape]
      exact fair.behind _ _ _
    obtain ⟨shifted, steady⟩ := body.shifts given
    have width := shadows.width_eq fair steady
    rw [← shifted] at width
    simp only [LevelKind.shift]
    rw [width, shifted]
    exact Regex.Shadows.of_shift fun _ _ _ _ => rfl
  | conditional group =>
    generalize p.level.finished = choices, q.level.finished = choices' at finished ⊢
    cases finished with
    | nil =>
      have nothing : Regex.empty.Shadows c (c.exact p.kinds) .empty := .of_shift fun _ _ _ _ => rfl
      exact current.conditional nothing group
    | cons yes _ => exact yes.conditional current group

theorem canRepeat_closedItem (parser : Parser) (inside : parser.level.kind ≠ .whole) :
    parser.closedItem.canRepeat = true := by
  unfold Parser.closedItem
  dsimp only
  split
  · next whole => exact absurd whole inside
  · rfl
  · rfl
  · rfl
  · rfl
  · rfl
  · split <;> rfl

theorem pushClose (fair : c.Fair) (shadows : Shadows c p q) {next : Level} {outer : List Level}
    (stack : p.outer = next :: outer) {rest rest' : List Piece} (more : rest' ≠ [.dangling])
    (text : ∀ x y : Input, x.rest = rest → y.rest = rest' → c.text x y) :
    ∃ next' outer', q.outer = next' :: outer' ∧ Mirrors c.excused (Shadows c)
      (p.pushClose next outer rest) (q.pushClose next' outer' rest') := by
  have levels := shadows.stack
  rw [stack] at levels
  obtain ⟨inside, kind, next', outer', stack', around⟩ := levels.around
  have inside' : q.level.kind ≠ .whole := by
    rw [kind]
    cases shape : p.level.kind <;> simp_all [LevelKind.shift]
  refine ⟨next', outer', stack', ?_⟩
  have item := shadows.closedItem fair inside kind
  have within : c.exact ((next :: outer).map Level.kind) → c.exact p.kinds := by
    rw [kinds, stack, List.map_cons]
    exact fair.inside _ _
  -- The level that closes becomes an item of the level around it, in both parsers.
  refine (Input.goTo_mirrors more _ _).excuse.bind fun x y onward => ?_
  have can : q.closedItem.canRepeat = p.closedItem.canRepeat := by
    rw [canRepeat_closedItem p inside, canRepeat_closedItem q inside']
  have text := text x y onward.1 onward.2
  dsimp only
  rw [kind]
  refine .ok { shadows with
    text := text
    stack := around.replace (around.top.push (item.mono within) can) rfl rfl
    widths := ?_
    lookbehind := ?_ }
  · obtain ⟨own, split, same⟩ := shadows.widths
    cases shape : p.level.kind with
    | capture index =>
      refine ⟨_, by simp only [LevelKind.shift, split]; rfl, .cons ⟨rfl, fun tight => ?_⟩ same⟩
      have given : c.exact p.kinds := by
        rw [kinds, List.map_cons, shape]
        exact fair.capture _ _ tight
      obtain ⟨shifted, steady⟩ := item.shifts given
      rw [shifted]
      exact shadows.width_eq fair steady
    | _ => exact ⟨own, split, same⟩
  · have before := shadows.lookbehind
    cases p.level.kind with
    | behind negated outermost => cases outermost <;> simp [LevelKind.shift, before]
    | _ => simpa [LevelKind.shift] using before

theorem outermost (shadows : Shadows c p q) (outside : p.outer = [])
    (exact : c.exact [p.level.kind]) : q.outer = c.base ∧ q.level.kind = c.bottom ∧
      q.level.body = p.level.body.shift c.offset := by
  have stack := shadows.stack
  rw [outside] at stack
  exact ⟨stack.outermost.1, stack.outermost.2, (stack.top.body.shifts exact).1⟩

theorem pushGlobalFlags (shadows : Shadows c p q) (whole : c.bottom = .whole) {on : Flags}
    (turned : c.flags (p.flags.union on) (q.flags.union on))
    (verbose : (q.flags.union on).has .verbose = (p.flags.union on).has .verbose)
    (mode : c.modes ((p.flags.union on).has .verbose))
    (start start' : Nat) :
    Mirrors c.excused (Shadows c) (p.pushGlobalFlags on start) (q.pushGlobalFlags on start') := by
  have same := shadows.stack.top
  have kind (outside : p.level.kind = .whole) : q.level.kind = .whole := by
    have stack := shadows.stack
    generalize p.outer = outer, q.outer = outer' at stack
    cases stack with
    | bottom _ _ kind => exact kind.trans whole
    | inner _ inside => exact absurd outside inside
  unfold Parser.pushGlobalFlags
  split
  · next first =>
    simp only [Bool.and_eq_true, decide_eq_true_eq, List.isEmpty_iff] at first
    obtain ⟨⟨outside, finished⟩, items⟩ := first
    have finished' : q.level.finished = [] := by
      have both := same.finished
      rw [finished] at both
      exact List.forall₂_nil_left_iff.mp both
    have items' : q.level.items = [] := by
      have last := same.last
      rw [items] at last
      simpa using last
    rw [if_pos (by simp [kind outside, finished', items'])]
    refine .ok ?_
    have level : Level.Shadows c (c.exact p.kinds)
        { p.level with verbose := (p.flags.union on).has .verbose }
        { q.level with verbose := (q.flags.union on).has .verbose } :=
      { same with verbose, mode }
    exact { shadows with
      stack := shadows.stack.replace level rfl rfl
      flags := turned }
  · exact .error

end Shadows

end Parser

end RuleLexer
