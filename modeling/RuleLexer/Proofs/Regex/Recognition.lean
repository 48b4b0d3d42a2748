import Mathlib.Computability.Language
import RuleLexer.Proofs.Regex.Listing
import RuleLexer.Proofs.Regex.Parsing
import RuleLexer.Regex.Search

namespace RuleLexer

open scoped Computability

def Continuation.Accepts (next : Continuation) (goal : Nat → Prop) : Prop :=
  ∀ cursor, (next cursor).isSome = true ↔ goal cursor.position

/-- A word of the language stands at the place, and the goal is met behind it. -/
def Reaches (text : List Char) (language : Language Char) (goal : Nat → Prop) (position : Nat) :
    Prop :=
  ∃ word ∈ language, word <+: text.drop position ∧ goal (position + word.length)

/-- The step takes the words of the language. -/
def Step.Recognizes (text : List Char) (step : Step) (language : Language Char) : Prop :=
  ∀ next goal, Continuation.Accepts next goal →
    Continuation.Accepts (fun cursor => step cursor next) (Reaches text language goal)

section Reaches

variable {text : List Char} {first second language : Language Char} {goal : Nat → Prop}
  {position : Nat}

theorem reaches_one : Reaches text 1 goal position ↔ goal position := by
  constructor
  · rintro ⟨word, empty, -, met⟩
    cases (Language.mem_one _).mp empty
    exact met
  · exact fun met => ⟨[], Language.nil_mem_one, List.nil_prefix, met⟩

theorem reaches_add : Reaches text (first + second) goal position ↔
    Reaches text first goal position ∨ Reaches text second goal position := by
  constructor
  · rintro ⟨word, member, stands, met⟩
    exact ((Language.mem_add _ _ _).mp member).imp (⟨word, ·, stands, met⟩) (⟨word, ·, stands, met⟩)
  · rintro (⟨word, member, stands, met⟩ | ⟨word, member, stands, met⟩)
    · exact ⟨word, (Language.mem_add _ _ _).mpr (.inl member), stands, met⟩
    · exact ⟨word, (Language.mem_add _ _ _).mpr (.inr member), stands, met⟩

theorem append_prefix_drop {left right : List Char} : left ++ right <+: text.drop position ↔
    left <+: text.drop position ∧ right <+: text.drop (position + left.length) := by
  rw [← List.drop_drop]
  constructor
  · rintro ⟨tail, same⟩
    rw [← same, List.append_assoc, List.drop_left]
    exact ⟨List.prefix_append _ _, List.prefix_append _ _⟩
  · rintro ⟨⟨rest, same⟩, behind⟩
    rw [← same, List.drop_left] at behind
    rw [← same]
    exact (List.prefix_append_right_inj left).mpr behind

theorem reaches_mul : Reaches text (first * second) goal position ↔
    Reaches text first (Reaches text second goal) position := by
  constructor
  · rintro ⟨_, member, stands, met⟩
    obtain ⟨left, one, right, other, rfl⟩ := Language.mem_mul.mp member
    obtain ⟨here, behind⟩ := append_prefix_drop.mp stands
    rw [List.length_append, ← Nat.add_assoc] at met
    exact ⟨left, one, here, right, other, behind, met⟩
  · rintro ⟨left, one, here, right, other, behind, met⟩
    refine ⟨left ++ right, Language.append_mem_mul one other, append_prefix_drop.mpr ⟨here, behind⟩, ?_⟩
    rw [List.length_append, ← Nat.add_assoc]
    exact met

end Reaches

def repetitions (language : Language Char) (least : Nat) (most : Option Nat) : Language Char :=
  language ^ least * match most with
    | some most => (1 + language) ^ (most - least)
    | none => language∗

theorem repetitions_one (language : Language Char) :
    repetitions language 1 (some 1) = language := by
  simp [repetitions]

theorem append_mem_pow {language : Language Char} {count : Nat} {left right : List Char}
    (one : left = [] ∨ left ∈ language) (rest : right ∈ (1 + language) ^ count) :
    left ++ right ∈ (1 + language) ^ (count + 1) := by
  rw [pow_succ']
  exact Language.append_mem_mul ((Language.mem_add _ _ _).mpr one) rest

theorem nil_mem_pow (language : Language Char) (count : Nat) : [] ∈ (1 + language) ^ count := by
  induction count with
  | zero => exact Language.nil_mem_one
  | succ count ih => exact append_mem_pow (.inl rfl) ih

theorem starts_of_mem_pow {language : Language Char} {count : Nat} {word : List Char}
    (member : word ∈ (1 + language) ^ (count + 1)) :
    word = [] ∨ ∃ left ∈ language, left ≠ [] ∧ ∃ right ∈ (1 + language) ^ count,
      word = left ++ right := by
  induction count generalizing word with
  | zero =>
    rw [Nat.zero_add, pow_one, Language.mem_add] at member
    by_cases empty : word = []
    · exact .inl empty
    · exact .inr ⟨word, member.resolve_left empty, empty, [], nil_mem_pow _ _,
        (List.append_nil _).symm⟩
  | succ count ih =>
    rw [pow_succ'] at member
    obtain ⟨left, one, right, rest, rfl⟩ := Language.mem_mul.mp member
    by_cases empty : left = []
    · subst empty
      refine (ih rest).imp_right ?_
      rintro ⟨left, one, some, right, rest, same⟩
      have fewer : [] ++ right ∈ (1 + language) ^ (count + 1) := append_mem_pow (.inl rfl) rest
      exact ⟨left, one, some, right, fewer, same⟩
    · exact .inr ⟨left, ((Language.mem_add _ _ _).mp one).resolve_left empty, empty, right, rest, rfl⟩

theorem mem_kstar_of_mem_pow {language : Language Char} {count : Nat} {word : List Char}
    (member : word ∈ (1 + language) ^ count) : word ∈ language∗ := by
  induction count generalizing word with
  | zero => exact (Language.mem_one _).mp member ▸ Language.nil_mem_kstar _
  | succ count ih =>
    rcases starts_of_mem_pow member with rfl | ⟨left, one, -, right, rest, rfl⟩
    · exact Language.nil_mem_kstar _
    · have behind : left ++ right ∈ language * language∗ := Language.append_mem_mul one (ih rest)
      exact (mul_kstar_le_kstar : language * language∗ ≤ language∗) behind

theorem mem_pow_of_mem_kstar {language : Language Char} {word : List Char}
    (member : word ∈ language∗) {count : Nat} (bound : word.length ≤ count) :
    word ∈ (1 + language) ^ count := by
  obtain ⟨words, rfl, each⟩ := Language.mem_kstar_iff_exists_nonempty.mp member
  clear member
  induction words generalizing count with
  | nil => exact nil_mem_pow language count
  | cons word words ih =>
    obtain ⟨⟨one, some⟩, each⟩ := List.forall_mem_cons.mp each
    rw [List.flatten_cons, List.length_append] at bound
    have positive := List.length_pos_of_ne_nil some
    obtain ⟨count, rfl⟩ := Nat.exists_eq_add_one.mpr (by omega : 0 < count)
    rw [List.flatten_cons]
    exact append_mem_pow (.inr one) (ih each (by omega))

namespace Step.Recognizes

variable {text : List Char} {step : Step} {language : Language Char}

theorem times (recognizes : step.Recognizes text language) (count : Nat) :
    (step.times count).Recognizes text (language ^ count) := by
  induction count with
  | zero =>
    intro next goal accepts cursor
    rw [pow_zero, reaches_one]
    exact accepts cursor
  | succ count ih =>
    intro next goal accepts cursor
    rw [pow_succ', reaches_mul]
    exact recognizes _ _ (ih next goal accepts) cursor

theorem greedily (recognizes : step.Recognizes text language) (count : Nat) :
    (step.greedily count).Recognizes text ((1 + language) ^ count) := by
  induction count with
  | zero =>
    intro next goal accepts cursor
    rw [pow_zero, reaches_one]
    exact accepts cursor
  | succ count ih =>
    intro next goal accepts cursor
    -- The rest of the match after an iteration, which is the last one if it has matched nothing.
    let onward : Nat → Prop := fun position =>
      if position = cursor.position then goal position
      else Reaches text ((1 + language) ^ count) goal position
    have inner : Continuation.Accepts (fun reached =>
        if reached.position = cursor.position then next reached
        else step.greedily count reached next) onward := by
      intro reached
      dsimp only [onward]
      split
      · exact accepts reached
      · exact ih next goal accepts reached
    have once := recognizes _ _ inner cursor
    have unfolds : (step.greedily (count + 1) cursor next).isSome = true ↔
        Reaches text language onward cursor.position ∨ goal cursor.position := by
      rw [Step.greedily, Option.orElse_eq_orElse, Option.orElse_eq_or, Option.isSome_or,
        Bool.or_eq_true, once, accepts cursor]
    refine unfolds.trans ?_
    have empty : [] ∈ (1 + language) ^ (count + 1) := nil_mem_pow _ _
    constructor
    · rintro (⟨word, member, stands, met⟩ | met)
      · dsimp only [onward] at met
        split at met
        · next same =>
          exact ⟨[], empty, List.nil_prefix, same ▸ met⟩
        · rw [pow_succ', reaches_mul, reaches_add]
          exact .inr ⟨word, member, stands, met⟩
      · exact ⟨[], empty, List.nil_prefix, met⟩
    · rintro ⟨word, member, stands, met⟩
      rcases starts_of_mem_pow member with rfl | ⟨left, one, some, right, rest, rfl⟩
      · exact .inr met
      · obtain ⟨here, behind⟩ := append_prefix_drop.mp stands
        have positive := List.length_pos_of_ne_nil some
        refine .inl ⟨left, one, here, ?_⟩
        dsimp only [onward]
        rw [if_neg (by omega)]
        rw [List.length_append, ← Nat.add_assoc] at met
        exact ⟨right, rest, behind, met⟩

theorem repeatedly {text : Array Char} (recognizes : step.Recognizes text.toList language)
    (least : Nat) (most : Option Nat) :
    (step.repeatedly .greedy least most text.size).Recognizes text.toList
      (repetitions language least most) := by
  intro next goal accepts cursor
  have loop : Continuation.Accepts (fun reached => step.greedily (match most with
      | some most => most - least
      | none => text.size + 1) reached next) (Reaches text.toList (match most with
      | some most => (1 + language) ^ (most - least)
      | none => language∗) goal) := by
    cases most with
    | some most => exact recognizes.greedily _ next goal accepts
    | none =>
      intro reached
      refine (recognizes.greedily (text.size + 1) next goal accepts reached).trans ?_
      constructor
      · rintro ⟨word, member, rest⟩
        exact ⟨word, mem_kstar_of_mem_pow member, rest⟩
      · rintro ⟨word, member, stands, met⟩
        refine ⟨word, mem_pow_of_mem_kstar member ?_, stands, met⟩
        have short : word.length ≤ text.toList.length - reached.position := by
          simpa using stands.length_le
        have total : text.toList.length = text.size := Array.length_toList
        omega
  unfold repetitions
  rw [reaches_mul]
  exact recognizes.times least _ _ loop cursor

theorem character (text : Array Char) (c : Char) :
    (Step.character text (c.toNat == ·)).Recognizes text.toList {[c]} := by
  intro next goal accepts cursor
  have stands : Reaches text.toList {[c]} goal cursor.position ↔
      [c] <+: text.toList.drop cursor.position ∧ goal (cursor.position + 1) := by
    constructor
    · rintro ⟨_, rfl, here, met⟩
      exact ⟨here, met⟩
    · exact fun ⟨here, met⟩ => ⟨[c], rfl, here, met⟩
  refine Iff.trans ?_ stands.symm
  unfold Step.character
  dsimp only
  rw [codeAt?_eq_head?]
  cases text.toList.drop cursor.position with
  | nil => simp
  | cons d rest =>
    simp only [List.head?_cons, Option.map_some, beq_iff_eq, List.cons_prefix_cons, List.nil_prefix,
      and_true]
    by_cases same : c = d
    · rw [if_pos (congrArg Char.toNat same)]
      exact (accepts cursor.advance).trans (and_iff_right same).symm
    · rw [if_neg fun codes => same (Char.toNat_inj.mp codes)]
      simp [same]

end Step.Recognizes

namespace Regex

structure Spells (regex : Regex) (language : Language Char) : Prop where
  recognizes : ∀ text mode, mode.ignoreCase = false →
    (regex.run text mode).Recognizes text.toList language
  checks : regex.check false = .ok ()

namespace Spells

variable {regex other : Regex} {language second : Language Char}

theorem empty : Regex.empty.Spells 1 where
  recognizes text mode _ next goal accepts cursor := by
    rw [reaches_one]
    exact accepts cursor
  checks := rfl

theorem char (c : Char) : (Regex.char c.toNat).Spells {[c]} where
  recognizes text mode respects := by
    have same : mode.isChar c.toNat = (c.toNat == ·) := by
      funext code
      simp [Mode.isChar, respects]
    have recognizes := Step.Recognizes.character text c
    rw [← same] at recognizes
    exact recognizes
  checks := rfl

theorem seq (spells : regex.Spells language) (behind : other.Spells second) :
    (Regex.seq regex other).Spells (language * second) where
  recognizes text mode respects next goal accepts cursor := by
    rw [reaches_mul]
    exact spells.recognizes text mode respects _ _
      (behind.recognizes text mode respects next goal accepts) cursor
  checks := check_seq.mpr ⟨spells.checks, behind.checks⟩

theorem alt (spells : regex.Spells language) (behind : other.Spells second) :
    (Regex.alt regex other).Spells (language + second) where
  recognizes text mode respects next goal accepts cursor := by
    rw [reaches_add, ← spells.recognizes text mode respects next goal accepts cursor,
      ← behind.recognizes text mode respects next goal accepts cursor]
    simp only [run, Option.orElse_eq_orElse, Option.orElse_eq_or, Option.isSome_or, Bool.or_eq_true]
  checks := check_seq.mpr ⟨spells.checks, behind.checks⟩

theorem group (spells : regex.Spells language) (index : Nat) :
    (Regex.group index regex).Spells language where
  recognizes text mode respects _ goal accepts cursor :=
    spells.recognizes text mode respects _ goal
      (fun reached => accepts (reached.close index cursor.position)) cursor
  checks := spells.checks

theorem unscoped (spells : regex.Spells language) :
    (Regex.scoped .none .none regex).Spells language where
  recognizes text mode respects := by
    have same : mode.change .none .none = mode := by
      simp [Mode.change, Flags.has, Flags.none]
    show (regex.run text (mode.change .none .none)).Recognizes _ _
    rw [same]
    exact spells.recognizes text mode respects
  checks := spells.checks

theorem repeated (spells : regex.Spells language) (least : Nat) (most : Option Nat) :
    (Regex.repeated .greedy least most regex).Spells (repetitions language least most) where
  recognizes text mode respects := (spells.recognizes text mode respects).repeatedly least most
  checks := check_repeated.mpr ⟨rfl, spells.checks⟩

theorem ofItems {items : List Regex} {languages : List (Language Char)}
    (spell : List.Forall₂ Spells items languages) : (Regex.ofItems items).Spells languages.prod := by
  induction spell with
  | nil => exact empty
  | @cons item language items languages first rest ih =>
    rw [List.prod_cons]
    cases rest with
    | nil =>
      rw [List.prod_nil, mul_one]
      exact first
    | cons => exact first.seq ih

theorem ofAlternatives {choices : List Regex} {languages : List (Language Char)}
    (spell : List.Forall₂ Spells choices languages) (some : choices ≠ []) :
    (Regex.ofAlternatives choices).Spells languages.sum := by
  induction spell with
  | nil => exact absurd rfl some
  | @cons choice language choices languages first rest ih =>
    rw [List.sum_cons]
    cases rest with
    | nil =>
      rw [List.sum_nil, add_zero]
      exact first
    | cons => exact first.alt (ih nofun)

end Spells

end Regex

namespace Pattern

def fullyMatches (pattern : Pattern) (text : List Char) : Bool :=
  (pattern.regex.run text.toArray pattern.mode (.start 0) fun cursor =>
    if cursor.position = text.length then some cursor else none).isSome

theorem fullyMatches_iff {pattern : Pattern} {language : Language Char}
    (spells : pattern.regex.Spells language) (respects : pattern.mode.ignoreCase = false)
    (text : List Char) : pattern.fullyMatches text = true ↔ text ∈ language := by
  have ends : Continuation.Accepts (fun cursor =>
      if cursor.position = text.length then some cursor else none) (· = text.length) := by
    intro cursor
    by_cases last : cursor.position = text.length <;> simp [last]
  refine (spells.recognizes text.toArray pattern.mode respects _ _ ends (.start 0)).trans ?_
  constructor
  · rintro ⟨word, member, stands, whole⟩
    have whole : 0 + word.length = text.length := whole
    have stands : word <+: text := stands
    exact stands.eq_of_length (by omega) ▸ member
  · intro member
    exact ⟨text, member, List.prefix_rfl, Nat.zero_add _⟩

end Pattern

end RuleLexer
