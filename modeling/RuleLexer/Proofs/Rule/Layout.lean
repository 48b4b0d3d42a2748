import Mathlib.Data.List.Nodup
import RuleLexer.Proofs.Rule.Dispatch

namespace RuleLexer

theorem defineNames_ok {rule : String} {source : List Char}
    {defined result : List (List Char × String)} {names : List (List Char)}
    (entered : defineNames rule source defined names = .ok result) :
    result.map Prod.fst = names.reverse ++ defined.map Prod.fst ∧
      ((defined.map Prod.fst).Nodup → (result.map Prod.fst).Nodup) := by
  induction names generalizing defined with
  | nil =>
    cases entered
    exact ⟨rfl, id⟩
  | cons name names ih =>
    unfold defineNames at entered
    split at entered
    · cases entered
    · next fresh =>
      obtain ⟨keys, unique⟩ := ih entered
      refine ⟨by simp [keys], fun nodup => unique ?_⟩
      have unused : name ∉ defined.map Prod.fst := by
        intro member
        obtain ⟨entry, found, rfl⟩ := List.mem_map.mp member
        have differs := List.lookup_eq_none_iff.mp fresh entry found
        simp at differs
      exact List.nodup_cons.mpr ⟨unused, nodup⟩

theorem Assembly.names_of_addAll {config : Config} {assembly final : Assembly} {place : Nat}
    {candidates : List Candidate} (added : assembly.addAll config place candidates = .ok final)
    (unique : (assembly.defined.map Prod.fst).Nodup) :
    ∃ sources : List (List Char), candidates.map (Candidate.source? config) = sources.map some ∧
      final.defined.map Prod.fst =
        (sources.flatMap groupNames).reverse ++ assembly.defined.map Prod.fst ∧
      (final.defined.map Prod.fst).Nodup := by
  induction candidates generalizing assembly place with
  | nil =>
    cases added
    exact ⟨[], rfl, rfl, unique⟩
  | cons candidate candidates ih =>
    obtain ⟨middle, once, rest⟩ := bind_eq_ok_iff.mp added
    obtain ⟨-, source, rule, defined, -, described, -, entered, rfl⟩ := of_add once
    obtain ⟨keys, preserved⟩ := defineNames_ok entered
    obtain ⟨sources, all, later, nodup⟩ := ih rest (preserved unique)
    refine ⟨source :: sources, by simp [described, all], ?_, nodup⟩
    rw [later, keys]
    simp

theorem RuleSet.names_of_ofTable {config : Config} {candidates : List Candidate} {set : RuleSet}
    (accepted : ofTable config (some candidates) = .ok set) :
    ∃ sources : List (List Char), candidates.map (Candidate.source? config) = sources.map some ∧
      (sources.flatMap groupNames).Nodup := by
  cases candidates with
  | nil => cases accepted
  | cons candidate candidates =>
    obtain ⟨assembly, added, -⟩ := bind_eq_ok_iff.mp accepted
    obtain ⟨sources, all, keys, nodup⟩ := Assembly.names_of_addAll added .nil
    refine ⟨sources, all, ?_⟩
    rw [keys, Assembly.start, List.map_nil, List.append_nil] at nodup
    exact List.nodup_reverse.mp nodup

theorem Assembly.joinBars_eq_intercalate (texts : List (List Char)) :
    joinBars texts = List.intercalate ['|'] texts := by
  fun_induction joinBars texts with
  | case1 => rfl
  | case2 text => simp
  | case3 text texts nonempty ih =>
    cases texts with
    | nil => exact absurd rfl nonempty
    | cons next texts => simp [ih]

theorem CompiledRule.mem_groupSpan {rule : CompiledRule} {index : Int} :
    index ∈ rule.groupSpan ↔
      (rule.groupIndex : Int) < index ∧ index ≤ rule.groupIndex + rule.captures := by
  simp only [groupSpan, spanAfter, List.mem_map, List.mem_range, Int.toNat_natCast]
  constructor
  · rintro ⟨inner, bound, rfl⟩
    omega
  · rintro ⟨above, below⟩
    exact ⟨(index - rule.groupIndex - 1).toNat, by omega, by omega⟩

namespace Consecutive

variable {offset total : Nat} {rules : List CompiledRule}

theorem offset_le (consecutive : Consecutive offset rules total) : offset ≤ total := by
  induction rules generalizing offset with
  | nil => exact Nat.le_of_eq consecutive.symm
  | cons rule rules ih =>
    have behind := ih consecutive.2
    omega

theorem end_le {rule : CompiledRule} (consecutive : Consecutive offset rules total)
    (member : rule ∈ rules) : rule.groupIndex + rule.captures ≤ total := by
  induction rules generalizing offset with
  | nil => cases member
  | cons first rules ih =>
    rcases List.mem_cons.mp member with rfl | later
    · have behind := consecutive.2.offset_le
      have here := consecutive.1
      omega
    · exact ih consecutive.2 later

theorem end_lt {place later : Nat} {rule behind : CompiledRule}
    (consecutive : Consecutive offset rules total) (here : rules[place]? = some rule)
    (there : rules[later]? = some behind) (order : place < later) :
    rule.groupIndex + rule.captures < behind.groupIndex := by
  induction rules generalizing offset place later with
  | nil => cases here
  | cons first rules ih =>
    obtain ⟨later, rfl⟩ := Nat.exists_eq_add_one.mpr (Nat.zero_lt_of_lt order)
    rw [List.getElem?_cons_succ] at there
    cases place with
    | zero =>
      cases here
      have bound := consecutive.2.offset_lt (List.mem_of_getElem? there)
      have start := consecutive.1
      omega
    | succ place => exact ih consecutive.2 here there (Nat.lt_of_succ_lt_succ order)

theorem next_groupIndex {place : Nat} {rule next : CompiledRule}
    (consecutive : Consecutive offset rules total) (here : rules[place]? = some rule)
    (there : rules[place + 1]? = some next) :
    next.groupIndex = rule.groupIndex + rule.captures + 1 := by
  induction rules generalizing offset place with
  | nil => cases here
  | cons first rules ih =>
    rw [List.getElem?_cons_succ] at there
    cases place with
    | succ place => exact ih consecutive.2 here there
    | zero =>
      cases here
      cases rules with
      | nil => cases there
      | cons second rules =>
        cases there
        rw [consecutive.2.1, consecutive.1]
        omega

theorem getLast_end {last : CompiledRule} (consecutive : Consecutive offset rules total)
    (final : rules.getLast? = some last) : total = last.groupIndex + last.captures := by
  induction rules generalizing offset with
  | nil => cases final
  | cons rule rules ih =>
    cases rules with
    | nil =>
      have ends : total = offset + rule.captures + 1 := consecutive.2
      obtain rfl : rule = last := by simpa using final
      rw [ends, consecutive.1]
      omega
    | cons next rules => exact ih consecutive.2 (by simpa using final)

theorem exists_around (consecutive : Consecutive offset rules total) (index : Nat)
    (above : offset < index) (below : index ≤ total) :
    ∃ (place : Nat) (rule : CompiledRule), rules[place]? = some rule ∧
      rule.groupIndex ≤ index ∧ index ≤ rule.groupIndex + rule.captures := by
  induction rules generalizing offset with
  | nil =>
    have empty : total = offset := consecutive
    omega
  | cons first rules ih =>
    by_cases inside : index ≤ offset + first.captures + 1
    · refine ⟨0, first, rfl, ?_, ?_⟩
      · rw [consecutive.1]
        omega
      · rw [consecutive.1]
        omega
    · obtain ⟨place, rule, found, bounds⟩ := ih consecutive.2 (Nat.lt_of_not_le inside)
      exact ⟨place + 1, rule, found, bounds⟩

theorem place_unique {place other : Nat} {rule another : CompiledRule} (index : Int)
    (consecutive : Consecutive offset rules total)
    (here : rules[place]? = some rule) (there : rules[other]? = some another)
    (inside : (rule.groupIndex : Int) ≤ index ∧ index ≤ rule.groupIndex + rule.captures)
    (alsoInside : (another.groupIndex : Int) ≤ index ∧
      index ≤ another.groupIndex + another.captures) : place = other := by
  rcases Nat.lt_trichotomy place other with before | same | behind
  · have apart := consecutive.end_lt here there before
    omega
  · exact same
  · have apart := consecutive.end_lt there here behind
    omega

end Consecutive

namespace RuleSet

/-- The group `index` stands around the rule at `place`. -/
def Wraps (set : RuleSet) (index : Int) (place : Nat) : Prop :=
  ∃ rule, set.rules[place]? = some rule ∧ (rule.groupIndex : Int) = index

def Encloses (set : RuleSet) (index : Int) (place : Nat) : Prop :=
  ∃ rule, set.rules[place]? = some rule ∧ index ∈ rule.groupSpan

/-- How the groups and the group names of an accepted table lie. -/
structure LaidOut (config : Config) (candidates : List Candidate) (set : RuleSet) : Prop where
  head : set.rules[0]? = some htmlBreak ∧ htmlBreak.groupIndex = 1 ∧ htmlBreak.captures = 0
  next : ∀ place previous rule, set.rules[place]? = some previous →
    set.rules[place + 1]? = some rule →
      rule.groupIndex = previous.groupIndex + previous.captures + 1
  last : ∃ rule, set.rules.getLast? = some rule ∧
    set.pattern.groups = rule.groupIndex + rule.captures
  partitioned : ∀ index : Int, 1 ≤ index → index ≤ set.pattern.groups →
    (∃! place, set.Wraps index place) ∧ (∀ place, ¬set.Encloses index place) ∨
      (∃! place, set.Encloses index place) ∧ (∀ place, ¬set.Wraps index place)
  found : ∀ group rule, set.ruleForGroup? group = some rule ↔
    rule ∈ set.rules ∧ group = some (rule.groupIndex : Int)
  missing : set.ruleForGroup? none = none ∧ ∀ index : Int,
    index ≤ 0 ∨ set.pattern.groups < index ∨ (∃ place, set.Encloses index place) →
      set.ruleForGroup? (some index) = none
  source : set.pattern.source = List.intercalate ['|'] (set.rules.map CompiledRule.wrapped)
  names : ∃ sources : List (List Char),
    candidates.map (Candidate.source? config) = sources.map some ∧
    List.Forall₂ (fun source rule => rule.captures = countCaptures source ∧
      renumber source rule.captures (rule.groupIndex - 1) = .ok rule.patternText)
      (htmlBreak.patternText :: sources) set.rules ∧
    (htmlBreak.patternText :: sources).Pairwise fun one other =>
      ∀ name ∈ groupNames one, name ∉ groupNames other

theorem ruleForGroup?_eq_some_iff {set : RuleSet} {total : Nat}
    (consecutive : Consecutive 0 set.rules total) {group : Option Int} {rule : CompiledRule} :
    set.ruleForGroup? group = some rule ↔
      rule ∈ set.rules ∧ group = some (rule.groupIndex : Int) := by
  constructor
  · intro found
    obtain ⟨index, rfl, found⟩ := Option.bind_eq_some_iff.mp found
    have same : (rule.groupIndex : Int) = index := by simpa using List.find?_some found
    exact ⟨List.mem_of_find?_eq_some found, by rw [same]⟩
  · rintro ⟨member, rfl⟩
    obtain ⟨before, after, order⟩ := List.append_of_mem member
    exact ruleForGroup?_groupIndex consecutive order

end RuleSet

theorem Places.renumbered {flags : Int} {offset total : Nat} {sources : List (List Char)}
    {rules : List CompiledRule} (places : Places (Placed flags) offset sources rules total) :
    List.Forall₂ (fun source rule => rule.captures = countCaptures source ∧
      renumber source rule.captures (rule.groupIndex - 1) = .ok rule.patternText)
      sources rules := by
  induction places with
  | nil offset => exact .nil
  | cons placed rest ih =>
    refine .cons ⟨placed.captures, ?_⟩ ih
    rw [placed.captures, placed.groupIndex, Int.natCast_add, Int.natCast_one, Int.add_sub_cancel]
    exact placed.text

namespace RuleSet

theorem partitioned_of_consecutive {set : RuleSet}
    (consecutive : Consecutive 0 set.rules set.pattern.groups) {index : Int} (above : 1 ≤ index)
    (below : index ≤ set.pattern.groups) :
    (∃! place, set.Wraps index place) ∧ (∀ place, ¬set.Encloses index place) ∨
      (∃! place, set.Encloses index place) ∧ (∀ place, ¬set.Wraps index place) := by
  obtain ⟨number, rfl⟩ := Int.eq_ofNat_of_zero_le (Int.le_trans (by decide) above)
  obtain ⟨place, rule, here, from_, upTo⟩ :=
    consecutive.exists_around number (by omega) (by omega)
  have around : ∀ other, set.Wraps number other ∨ set.Encloses number other → other = place := by
    rintro other (⟨another, there, same⟩ | ⟨another, there, inner⟩)
    · exact consecutive.place_unique number there here (by omega) (by omega)
    · have bounds := CompiledRule.mem_groupSpan.mp inner
      exact consecutive.place_unique number there here (by omega) (by omega)
  -- Of the groups of that rule, the first stands around it and the others are its own.
  by_cases wraps : rule.groupIndex = number
  · refine .inl ⟨⟨place, ⟨rule, here, by rw [wraps]⟩, fun other w => around other (.inl w)⟩, ?_⟩
    rintro other ⟨another, there, inner⟩
    obtain rfl := around other (.inr ⟨another, there, inner⟩)
    cases here.symm.trans there
    have bounds := CompiledRule.mem_groupSpan.mp inner
    omega
  · have inner : (number : Int) ∈ rule.groupSpan := CompiledRule.mem_groupSpan.mpr (by omega)
    refine .inr ⟨⟨place, ⟨rule, here, inner⟩, fun other e => around other (.inr e)⟩, ?_⟩
    rintro other ⟨another, there, same⟩
    obtain rfl := around other (.inl ⟨another, there, same⟩)
    cases here.symm.trans there
    omega

theorem missing_of_consecutive {set : RuleSet}
    (consecutive : Consecutive 0 set.rules set.pattern.groups) {index : Int}
    (outside : index ≤ 0 ∨ set.pattern.groups < index ∨ ∃ place, set.Encloses index place) :
    set.ruleForGroup? (some index) = none := by
  refine Option.eq_none_iff_forall_ne_some.mpr fun rule found => ?_
  obtain ⟨member, same⟩ := (ruleForGroup?_eq_some_iff consecutive).mp found
  cases same
  rcases outside with low | high | ⟨place, another, there, inner⟩
  · have bound := consecutive.offset_lt member
    omega
  · have bound := consecutive.end_le member
    omega
  · -- The rule itself reaches over its group, so it would be the one that encloses it.
    have bounds := CompiledRule.mem_groupSpan.mp inner
    obtain ⟨own, here⟩ := List.getElem?_of_mem member
    obtain rfl := consecutive.place_unique rule.groupIndex here there (by omega) (by omega)
    cases here.symm.trans there
    omega

/-- The groups of every accepted table are laid out without gaps. -/
theorem laidOut_of_ofTable {config : Config} {table : Option (List Candidate)} {set : RuleSet}
    (compiled : ofTable config table = .ok set) :
    ∃ candidates, table = some candidates ∧ LaidOut config candidates set := by
  obtain ⟨candidates, flags, rules, rfl, accepted⟩ := accepted_of_ofTable compiled
  obtain ⟨sources, all, nodup⟩ := names_of_ofTable compiled
  have consecutive := accepted.consecutive
  refine ⟨candidates, rfl, ?_⟩
  exact {
    head := ⟨by simp [accepted.order], rfl, rfl⟩
    next := fun place previous rule here there => consecutive.next_groupIndex here there
    last := by
      have nonempty : set.rules ≠ [] := by simp [accepted.order]
      refine ⟨_, List.getLast?_eq_some_getLast nonempty, ?_⟩
      exact consecutive.getLast_end (List.getLast?_eq_some_getLast nonempty)
    partitioned := fun index above below => partitioned_of_consecutive consecutive above below
    found := fun group rule => ruleForGroup?_eq_some_iff consecutive
    missing := ⟨rfl, fun index outside => missing_of_consecutive consecutive outside⟩
    source := by
      rw [← Assembly.joinBars_eq_intercalate]
      obtain ⟨parser, parsed⟩ := Pattern.compile_eq_ok_iff.mp accepted.compiled
      rw [parsed.made]
    names := by
      refine ⟨sources, all, ?_, ?_⟩
      · have described : candidates.filterMap (Candidate.source? config) = sources := by
          rw [← Function.id_comp (Candidate.source? config), ← List.filterMap_map, all]
          simp
        rw [accepted.order]
        exact .cons ⟨by decide, by rfl⟩ (described ▸ accepted.places.renumbered)
      · refine List.pairwise_cons.mpr ⟨fun source _ name member => ?_, ?_⟩
        · have nameless : groupNames htmlBreak.patternText = [] := by decide
          rw [nameless] at member
          cases member
        · refine (List.nodup_flatMap.mp nodup).2.imp fun disjoint name here there => ?_
          exact disjoint here there }

theorem referringTable_laidOut : LaidOut {} referringTable referringSet ∧
    referringSet.ruleForGroup? (some 4) = referringSet.rules[2]? ∧
    referringSet.ruleForGroup? (some 5) = none := by
  obtain ⟨candidates, given, laidOut⟩ := laidOut_of_ofTable ofTable_referringTable
  cases given
  exact ⟨laidOut, rfl, rfl⟩

end RuleSet

end RuleLexer
