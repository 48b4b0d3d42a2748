import RuleLexer.Proofs.Rule.Assembly

namespace RuleLexer

variable {good : Callback → Prop}

def Candidate.Uses (good : Callback → Prop) : Candidate → Prop
  | .rule _ _ (.callback callback) _ => good callback
  | _ => True

def RuleSet.Uses (good : Callback → Prop) (set : RuleSet) : Prop :=
  ∀ rule ∈ set.rules, ∀ callback, rule.callback = some callback → good callback

theorem Candidate.callback_of_validate {candidate : Candidate} (uses : candidate.Uses good) {place : Nat}
    {valid : ValidRule} (validated : candidate.validate place = .ok valid) {callback : Callback}
    (given : valid.callback = some callback) : good callback := by
  cases candidate with
  | other => cases validated
  | rule name pattern field discard =>
    obtain ⟨text, -, validated⟩ := bind_eq_ok_iff.mp validated
    obtain ⟨matcher, -, validated⟩ := bind_eq_ok_iff.mp validated
    obtain ⟨checked, accepted, validated⟩ := bind_eq_ok_iff.mp validated
    cases validated
    cases field with
    | callback called =>
      cases accepted
      cases given
      exact uses
    | value value =>
      cases value with
      | null =>
        cases accepted
        cases given
      | _ => cases accepted

namespace Assembly

theorem uses_add {config : Config} {assembly next : Assembly} {place : Nat} {candidate : Candidate}
    (uses : candidate.Uses good)
    (earlier : ∀ rule ∈ assembly.rules, ∀ callback, rule.callback = some callback → good callback)
    (added : assembly.add config place candidate = .ok next) :
    ∀ rule ∈ next.rules, ∀ callback, rule.callback = some callback → good callback := by
  obtain ⟨valid, _, flags, standalone, pattern, defined, text, validated, -, -, -, -, -, -, rfl⟩ :=
    steps_of_add added
  intro rule member callback given
  rcases List.mem_cons.mp member with rfl | member
  · exact candidate.callback_of_validate uses validated given
  · exact earlier rule member callback given

theorem uses_addAll {config : Config} {candidates : List Candidate}
    (uses : ∀ candidate ∈ candidates, candidate.Uses good) {assembly final : Assembly} {place : Nat}
    (earlier : ∀ rule ∈ assembly.rules, ∀ callback, rule.callback = some callback → good callback)
    (added : assembly.addAll config place candidates = .ok final) :
    ∀ rule ∈ final.rules, ∀ callback, rule.callback = some callback → good callback := by
  induction candidates generalizing assembly place with
  | nil =>
    cases added
    exact earlier
  | cons candidate candidates ih =>
    obtain ⟨middle, once, rest⟩ := bind_eq_ok_iff.mp added
    apply ih (fun later member => uses later (List.mem_cons_of_mem _ member)) _ rest
    exact uses_add (uses candidate List.mem_cons_self) earlier once

theorem rules_of_finish {config : Config} {assembly : Assembly} {set : RuleSet}
    (finished : assembly.finish config = .ok set) : set.rules = assembly.rules.reverse := by
  unfold finish at finished
  split at finished
  · obtain ⟨pattern, -, finished⟩ := bind_eq_ok_iff.mp finished
    split at finished
    · cases finished
    · cases finished
      rfl
  · cases finished

end Assembly

/-- A table of good callbacks has them when it is compiled, if the line break is a good one. -/
theorem RuleSet.uses_of_ofTable {config : Config} {table : Option (List Candidate)} {set : RuleSet}
    (lineBreak : good lineBreak) (uses : ∀ candidates, table = some candidates →
      ∀ candidate ∈ candidates, candidate.Uses good)
    (accepted : ofTable config table = .ok set) : set.Uses good := by
  unfold ofTable at accepted
  split at accepted
  · cases accepted
  · cases accepted
  · obtain ⟨assembly, added, finished⟩ := bind_eq_ok_iff.mp accepted
    intro rule member callback given
    rw [Assembly.rules_of_finish finished, List.mem_reverse] at member
    refine Assembly.uses_addAll (uses _ rfl) ?_ added rule member callback given
    intro first only callback given
    cases List.mem_singleton.mp only
    cases given
    exact lineBreak

theorem defaultTable_uses : ∀ candidate ∈ defaultTable, candidate.Uses good := by
  intro candidate member
  rcases List.mem_cons.mp member with rfl | rest
  · trivial
  · cases List.mem_singleton.mp rest
    trivial

end RuleLexer
