import Mathlib.Algebra.GroupWithZero.Nat
import RuleLexer.Proofs.Rule.Dispatch
import RuleLexer.Proofs.Rule.Joining

namespace RuleLexer

variable {config : Config}

def Candidate.Becomes (config : Config) (candidate : Candidate) (rule : CompiledRule) : Prop :=
  ∃ place valid source, candidate.validate place = .ok valid ∧
    source = valid.matcher.normal config.escapeEntities.isTruthy ∧ rule.name = valid.name ∧
    rule.callback = valid.callback ∧ rule.discard = valid.discard ∧
    rule.captures = countCaptures source ∧
    renumber source rule.captures (rule.groupIndex - 1) = .ok rule.patternText

theorem Consecutive.total_eq {offset total : Nat} {rules : List CompiledRule}
    (consecutive : Consecutive offset rules total) :
    total = offset + (rules.map fun rule => rule.captures + 1).sum := by
  induction rules generalizing offset with
  | nil => exact consecutive
  | cons rule rules ih =>
    rw [ih consecutive.2, List.map_cons, List.sum_cons]
    omega

namespace Assembly

theorem barred_eq_flatMap (texts : List (List Char)) :
    barred texts = texts.flatMap fun text => '|' :: text := by
  induction texts with
  | nil => rfl
  | cons text texts ih =>
    rw [barred, joinBars_cons, ih, List.flatMap_cons, List.cons_append]
    exact List.cons_ne_nil _ _

theorem addAll_append (assembly : Assembly) (place : Nat) (table more : List Candidate) :
    assembly.addAll config place (table ++ more) =
      assembly.addAll config place table >>=
        fun middle => middle.addAll config (place + table.length) more := by
  induction table generalizing assembly place with
  | nil => rfl
  | cons candidate table ih =>
    have onward : place + (candidate :: table).length = place + 1 + table.length := by
      rw [List.length_cons]
      omega
    rw [List.cons_append, addAll, addAll, onward]
    cases assembly.add config place candidate with
    | error failure => rfl
    | ok middle => exact ih middle (place + 1)

/-- The candidate at `place` is the first that cannot be added, and this is its failure. -/
def StopsAt (config : Config) (assembly : Assembly) (first : Nat) (table : List Candidate)
    (place : Nat) (failure : Failure) : Prop :=
  ∃ before candidate after middle, table = before ++ candidate :: after ∧
    place = first + before.length ∧ assembly.addAll config first before = .ok middle ∧
    middle.add config place candidate = .error failure

theorem StopsAt.addAll {assembly : Assembly} {first place : Nat} {table : List Candidate}
    {failure : Failure} (stops : assembly.StopsAt config first table place failure) :
    assembly.addAll config first table = .error failure := by
  obtain ⟨before, candidate, after, middle, rfl, rfl, added, failed⟩ := stops
  rw [addAll_append, added]
  change (middle.add config (first + before.length) candidate >>= _) = _
  rw [failed]
  rfl

theorem stopsAt_of_addAll {assembly : Assembly} {first : Nat} {table : List Candidate}
    {failure : Failure} (failed : assembly.addAll config first table = .error failure) :
    ∃ place, assembly.StopsAt config first table place failure := by
  induction table generalizing assembly first with
  | nil => cases failed
  | cons candidate table ih =>
    rw [Assembly.addAll] at failed
    cases here : assembly.add config first candidate with
    | error other =>
      rw [here] at failed
      cases failed
      exact ⟨first, [], candidate, table, assembly, rfl, rfl, rfl, here⟩
    | ok middle =>
      rw [here] at failed
      obtain ⟨place, before, culprit, after, last, rfl, rfl, added, stopped⟩ := ih failed
      refine ⟨_, candidate :: before, culprit, after, last, rfl, ?_, ?_, stopped⟩
      · rw [List.length_cons]
        omega
      · rw [Assembly.addAll, here]
        exact added

theorem StopsAt.append {assembly : Assembly} {first place : Nat} {table : List Candidate}
    {failure : Failure} (stops : assembly.StopsAt config first table place failure)
    (more : List Candidate) : assembly.StopsAt config first (table ++ more) place failure := by
  obtain ⟨before, candidate, after, middle, rfl, rfl, added, failed⟩ := stops
  exact ⟨before, candidate, after ++ more, middle, by simp, rfl, added, failed⟩

theorem becomes_of_add {assembly next : Assembly} {place : Nat} {candidate : Candidate}
    (added : assembly.add config place candidate = .ok next) :
    ∃ rule defined, candidate.Becomes config rule ∧ rule.groupIndex = assembly.offset + 1 ∧
      next = ⟨rule :: assembly.rules, assembly.offset + rule.captures + 1, defined⟩ := by
  obtain ⟨valid, source, _, _, _, defined, text, validated, normal, -, -, -, -, renumbered, rfl⟩ :=
    steps_of_add added
  refine ⟨⟨valid.name, text, valid.callback, valid.discard, countCaptures source,
    assembly.offset + 1⟩, defined, ?_, rfl, rfl⟩
  refine ⟨place, valid, source, validated, normal, rfl, rfl, rfl, rfl, ?_⟩
  simpa using renumbered

theorem extended_of_addAll {assembly final : Assembly} {place : Nat} {more : List Candidate}
    (added : assembly.addAll config place more = .ok final) :
    ∃ rules, final.rules.reverse = assembly.rules.reverse ++ rules ∧
      List.Forall₂ (Candidate.Becomes config) more rules ∧
      Consecutive assembly.offset rules final.offset := by
  induction more generalizing assembly place with
  | nil =>
    cases added
    exact ⟨[], by simp, .nil, rfl⟩
  | cons candidate more ih =>
    obtain ⟨middle, once, rest⟩ := bind_eq_ok_iff.mp added
    obtain ⟨rule, defined, becomes, place, rfl⟩ := becomes_of_add once
    obtain ⟨rules, order, become, consecutive⟩ := ih rest
    exact ⟨rule :: rules, by simp [order], .cons becomes become, place, consecutive⟩

theorem finish_eq_ok {assembly : Assembly} {set : RuleSet}
    (finished : assembly.finish config = .ok set) :
    set.rules = assembly.rules.reverse ∧ set.pattern.source = assembly.source ∧
      set.pattern.groups = assembly.offset := by
  unfold finish at finished
  split at finished
  · obtain ⟨pattern, compiled, finished⟩ := bind_eq_ok_iff.mp finished
    split at finished
    · cases finished
    · next counted =>
      cases finished
      obtain ⟨parser, parsed⟩ := Pattern.compile_eq_ok_iff.mp (compile_of_compileText compiled)
      exact ⟨rfl, by rw [parsed.made], Decidable.not_not.mp counted⟩
  · cases finished

end Assembly

namespace RuleSet

open Assembly (StopsAt)

/-- How a table that goes on behind another one is compiled, when both are accepted. -/
structure Extends (config : Config) (more : List Candidate) (set longer : RuleSet)
    (added : List CompiledRule) : Prop where
  rules : longer.rules = set.rules ++ added
  become : List.Forall₂ (Candidate.Becomes config) more added
  consecutive : Consecutive set.pattern.groups added longer.pattern.groups
  source : longer.pattern.source =
    set.pattern.source ++ added.flatMap fun rule => '|' :: rule.wrapped
  groups : longer.pattern.groups =
    set.pattern.groups + (added.map fun rule => rule.captures + 1).sum

theorem ofTable_of_stopsAt {table : List Candidate} {place : Nat} {failure : Failure}
    (stops : Assembly.start.StopsAt config 1 table place failure) :
    ofTable config (some table) = .error failure := by
  cases table with
  | nil =>
    obtain ⟨before, candidate, after, middle, nonempty, -⟩ := stops
    simp at nonempty
  | cons candidate table =>
    change (Assembly.start.addAll config 1 (candidate :: table) >>= _) = _
    rw [stops.addAll]
    rfl

theorem assembled_of_ofTable {table : List Candidate} {set : RuleSet}
    (accepted : ofTable config (some table) = .ok set) :
    ∃ assembly, Assembly.start.addAll config 1 table = .ok assembly ∧
      assembly.finish config = .ok set := by
  cases table with
  | nil => cases accepted
  | cons candidate table => exact bind_eq_ok_iff.mp accepted

theorem extends_of_ofTable {table more : List Candidate} {set longer : RuleSet}
    (accepted : ofTable config (some table) = .ok set)
    (also : ofTable config (some (table ++ more)) = .ok longer) :
    ∃ added, Extends config more set longer added := by
  obtain ⟨assembly, built, finished⟩ := assembled_of_ofTable accepted
  obtain ⟨final, continued, ended⟩ := assembled_of_ofTable also
  rw [Assembly.addAll_append, built] at continued
  obtain ⟨rules, order, become, consecutive⟩ := Assembly.extended_of_addAll continued
  obtain ⟨own, ownSource, ownGroups⟩ := Assembly.finish_eq_ok finished
  obtain ⟨all, allSource, allGroups⟩ := Assembly.finish_eq_ok ended
  rw [← ownGroups, ← allGroups] at consecutive
  obtain ⟨_, _, compiled, -, parts⟩ := accepted_of_ofTable accepted
  refine ⟨rules, by rw [all, order, own], become, consecutive, ?_, consecutive.total_eq⟩
  -- There is a rule in front, so that every further rule stands behind a bar.
  rw [allSource, ownSource, Assembly.source, Assembly.source, order, ← own, parts.order, List.map_append,
    List.map_cons, List.cons_append, Assembly.joinBars_cons, Assembly.joinBars_cons,
    Assembly.barred_eq_flatMap, Assembly.barred_eq_flatMap]
  simp [List.flatMap_map]

/-- Compilation goes strictly from left to right. If a table fails before the pattern of the whole
is compiled, then at one of its rules, and it fails there in the same way with any rules behind it.
If a table is accepted, and it is accepted with more rules behind it, then its rules are the first
ones, unchanged, and the pattern goes on behind its own by the further rules. -/
theorem ofTable_append (config : Config) (table more : List Candidate) :
    (∀ failure, ofTable config (some table) = .error failure → table ≠ [] →
      (∃ assembly, Assembly.start.addAll config 1 table = .ok assembly ∧
        assembly.finish config = .error failure) ∨
      ∃ place, Assembly.start.StopsAt config 1 table place failure) ∧
    (∀ place failure, Assembly.start.StopsAt config 1 table place failure →
      ofTable config (some table) = .error failure ∧
      Assembly.start.StopsAt config 1 (table ++ more) place failure ∧
      ofTable config (some (table ++ more)) = .error failure) ∧
    (∀ set longer, ofTable config (some table) = .ok set →
      ofTable config (some (table ++ more)) = .ok longer →
        ∃ added, Extends config more set longer added) := by
  refine ⟨?_, ?_, fun set longer => extends_of_ofTable⟩
  · intro failure failed nonempty
    cases table with
    | nil => exact absurd rfl nonempty
    | cons candidate table =>
      cases built : Assembly.start.addAll config 1 (candidate :: table) with
      | error other =>
        right
        change (Assembly.start.addAll config 1 (candidate :: table) >>= _) = _ at failed
        rw [built] at failed
        cases failed
        exact Assembly.stopsAt_of_addAll built
      | ok assembly =>
        left
        change (Assembly.start.addAll config 1 (candidate :: table) >>= _) = _ at failed
        rw [built] at failed
        exact ⟨assembly, rfl, failed⟩
  · intro place failure stops
    exact ⟨ofTable_of_stopsAt stops, stops.append more, ofTable_of_stopsAt (stops.append more)⟩

theorem referringTable_appended :
    (∃ set added, ofTable {} (some (referringTable.take 1)) = .ok set ∧
      Extends {} (referringTable.drop 1) set referringSet added) ∧
    ofTable {} (some ([.other] ++ referringTable)) = .error (.rule ⟨.place 1, .invalidRule⟩) := by
  constructor
  · obtain ⟨added, extended⟩ := (ofTable_append {} (referringTable.take 1)
      (referringTable.drop 1)).2.2 _ _ rfl ofTable_referringTable
    exact ⟨_, added, rfl, extended⟩
  · have stops : Assembly.start.StopsAt {} 1 [.other] 1 (.rule ⟨.place 1, .invalidRule⟩) :=
      ⟨[], .other, [], Assembly.start, rfl, rfl, rfl, rfl⟩
    exact ((ofTable_append {} [.other] referringTable).2.1 _ _ stops).2.2

end RuleSet

end RuleLexer
