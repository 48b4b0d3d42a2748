import Mathlib.Data.List.Induction
import RuleLexer.Proofs.Scan.Trace
import RuleLexer.Proofs.Session.History
import RuleLexer.Rule.Action

namespace RuleLexer

namespace Moment

def Makes (moment : Moment) (place : Nat) (lexer : Lexer) : Prop :=
  moment.before.lexers.length = place ∧ moment.before.constructed? moment.step = some lexer

def Compiles (moment : Moment) (place : Nat) : Prop :=
  ∃ lexer set, moment.before.demanded? moment.step = some (place, lexer) ∧
    RuleSet.ofTable lexer.config (moment.before.rulesOf lexer) = .ok set

end Moment

namespace Session

theorem lexer_moment {session : Session} {place : Nat} {lexer : Lexer}
    (there : session.lexers[place]? = some lexer) (step : SessionStep) :
    (∃ set, session.demanded? step = some (place, lexer) ∧
      RuleSet.ofTable lexer.config (session.rulesOf lexer) = .ok set ∧
      (session.moment step).after.lexers[place]? =
        some { lexer with compiled := some ⟨session.serial, set⟩ }) ∨
    (¬ (session.moment step).Compiles place ∧
      (session.moment step).after.lexers[place]? = some lexer) := by
  obtain ⟨bound, -⟩ := List.getElem?_eq_some_iff.mp there
  rw [moment_lexers, lexersAfter]
  -- A step compiles at most the one lexer that it demands.
  cases demanded : session.demanded? step with
  | none =>
    refine .inr ⟨?_, ?_⟩
    · rintro ⟨other, set, also, -⟩
      cases demanded.symm.trans also
    · rw [List.getElem?_append_left bound]
      exact there
  | some found =>
    obtain ⟨other, compiling⟩ := found
    have standing := lexer_of_demanded? demanded
    simp only [lexersCompiling]
    cases valid : RuleSet.ofTable compiling.config (session.rulesOf compiling) with
    | error failure =>
      refine .inr ⟨?_, there⟩
      rintro ⟨_, set, also, accepted⟩
      cases demanded.symm.trans also
      cases valid.symm.trans accepted
    | ok set =>
      by_cases same : other = place
      · subst same
        cases there.symm.trans standing
        exact .inl ⟨set, rfl, valid, by simp [bound]⟩
      · refine .inr ⟨?_, ?_⟩
        · rintro ⟨_, set, also, -⟩
          cases demanded.symm.trans also
          exact same rfl
        · rw [List.getElem?_set_ne same]
          exact there

theorem length_lexersCompiling (session : Session) (place : Nat) (lexer : Lexer) :
    (session.lexersCompiling place lexer).length = session.lexers.length := by
  unfold lexersCompiling
  split
  · exact List.length_set
  · rfl

theorem made_of_new {session : Session} {step : SessionStep} {place : Nat} {lexer : Lexer}
    (absent : session.lexers.length ≤ place)
    (there : (session.moment step).after.lexers[place]? = some lexer) :
    (session.moment step).Makes place lexer := by
  obtain ⟨bound, there⟩ := List.getElem?_eq_some_iff.mp there
  simp only [moment_lexers, lexersAfter] at bound there
  cases demanded : session.demanded? step with
  | some found =>
    simp only [demanded, length_lexersCompiling] at bound
    omega
  | none =>
    cases constructed : session.constructed? step with
    | none =>
      simp only [demanded, constructed, Option.toList_none, List.append_nil] at bound
      omega
    | some new =>
      simp only [demanded, constructed, Option.toList_some, List.length_append,
        List.length_singleton] at bound
      obtain rfl : place = session.lexers.length := by omega
      simp only [demanded, constructed, Option.toList_some, List.getElem_concat_length] at there
      exact ⟨rfl, there ▸ constructed⟩

theorem compiled_of_constructed? {session : Session} {step : SessionStep} {lexer : Lexer}
    (constructed : session.constructed? step = some lexer) : lexer.compiled = none := by
  unfold constructed? at constructed
  split at constructed
  · obtain ⟨place, -, rfl⟩ := Option.map_eq_some_iff.mp constructed
    rfl
  · cases constructed
    rfl
  · cases constructed

theorem length_lexers_le (session : Session) (step : SessionStep) :
    session.lexers.length ≤ (session.moment step).after.lexers.length := by
  rw [moment_lexers, lexersAfter]
  split
  · exact Nat.le_of_eq (length_lexersCompiling ..).symm
  · rw [List.length_append]
    omega

theorem length_lexers_le_after (session : Session) (steps : List SessionStep) :
    session.lexers.length ≤ (session.after steps).lexers.length := by
  induction steps generalizing session with
  | nil => exact Nat.le_refl _
  | cons step steps ih => exact Nat.le_trans (length_lexers_le session step) (ih _)

theorem length_before_le {session : Session} {steps : List SessionStep} {moment : Moment}
    (member : moment ∈ session.history steps) :
    moment.before.lexers.length ≤ (session.after steps).lexers.length := by
  obtain ⟨past, future, rfl, same⟩ := mem_history member
  rw [after_append, show moment.before = session.after past from congrArg Moment.before same]
  exact length_lexers_le_after _ _

end Session

theorem Moment.Compiles.lt_length {moment : Moment} {place : Nat} (compiles : moment.Compiles place) :
    place < moment.before.lexers.length := by
  obtain ⟨lexer, set, demanded, -⟩ := compiles
  exact (List.getElem?_eq_some_iff.mp (Session.lexer_of_demanded? demanded)).1

/-- What a history has to say about a lexer. -/
structure Lives (history : List Moment) (place : Nat) (lexer : Lexer) : Prop where
  made : ∃ moment ∈ history, ∃ new, moment.Makes place new ∧
    lexer.source = new.source ∧ lexer.config = new.config
  uncompiled : lexer.compiled = none ↔ ∀ moment ∈ history, ¬ moment.Compiles place
  compiled : ∀ compiled, lexer.compiled = some compiled →
    ∃ past moment future, history = past ++ moment :: future ∧ moment.Compiles place ∧
      (∀ later ∈ future, ¬ later.Compiles place) ∧
      RuleSet.ofTable lexer.config (moment.before.rulesOf lexer) = .ok compiled.set

namespace Lives

variable {history : List Moment} {moment : Moment} {place : Nat} {lexer : Lexer}

theorem start (earlier : ∀ moment ∈ history, ¬ moment.Compiles place) (makes : moment.Makes place lexer) :
    Lives (history ++ [moment]) place lexer := by
  have new : lexer.compiled = none := Session.compiled_of_constructed? makes.2
  have idle : ¬ moment.Compiles place := fun compiles =>
    absurd compiles.lt_length (makes.1 ▸ Nat.lt_irrefl _)
  refine ⟨⟨moment, List.mem_append_right _ List.mem_cons_self, lexer, makes, rfl, rfl⟩, ?_, ?_⟩
  · simp only [new, true_iff, List.mem_append, List.mem_singleton]
    rintro other (member | rfl)
    · exact earlier other member
    · exact idle
  · intro compiled has
    cases new.symm.trans has

theorem idle (lives : Lives history place lexer) (idle : ¬ moment.Compiles place) :
    Lives (history ++ [moment]) place lexer := by
  obtain ⟨maker, member, made⟩ := lives.made
  refine ⟨⟨maker, List.mem_append_left _ member, made⟩, ?_, ?_⟩
  · rw [lives.uncompiled]
    constructor
    · intro never other member
      rcases List.mem_append.mp member with member | last
      · exact never other member
      · exact List.mem_singleton.mp last ▸ idle
    · exact fun never other member => never other (List.mem_append_left _ member)
  · intro compiled has
    obtain ⟨past, last, future, rfl, compiles, later, rules⟩ := lives.compiled compiled has
    refine ⟨past, last, future ++ [moment], by simp, compiles, ?_, rules⟩
    intro other member
    rcases List.mem_append.mp member with member | last
    · exact later other member
    · exact List.mem_singleton.mp last ▸ idle

theorem compile (lives : Lives history place lexer) {set : RuleSet} (serial : Nat)
    (demanded : moment.before.demanded? moment.step = some (place, lexer))
    (valid : RuleSet.ofTable lexer.config (moment.before.rulesOf lexer) = .ok set) :
    Lives (history ++ [moment]) place { lexer with compiled := some ⟨serial, set⟩ } := by
  have compiles : moment.Compiles place := ⟨lexer, set, demanded, valid⟩
  obtain ⟨maker, member, made⟩ := lives.made
  refine ⟨⟨maker, List.mem_append_left _ member, made⟩, ?_, ?_⟩
  · simp only [reduceCtorEq, false_iff]
    intro never
    exact never moment (List.mem_append_right _ List.mem_cons_self) compiles
  · intro compiled has
    cases has
    exact ⟨history, moment, [], rfl, compiles, fun _ none => absurd none List.not_mem_nil, valid⟩

end Lives

/-- Every lexer of a session lives as its history says. -/
theorem Session.lives_after (steps : List SessionStep) {place : Nat} {lexer : Lexer}
    (there : (Session.after {} steps).lexers[place]? = some lexer) :
    Lives (Session.history {} steps) place lexer := by
  induction steps using List.reverseRecOn generalizing lexer with
  | nil => cases there
  | append_singleton steps step ih =>
    rw [after_append] at there
    rw [history_append]
    change (((Session.after {} steps).moment step).after).lexers[place]? = _ at there
    change Lives (_ ++ [(Session.after {} steps).moment step]) _ _
    cases old : (Session.after {} steps).lexers[place]? with
    | none =>
      rw [List.getElem?_eq_none_iff] at old
      refine .start (fun moment member compiles => ?_) (made_of_new old there)
      have known := length_before_le member
      have bound := compiles.lt_length
      omega
    | some before =>
      rcases lexer_moment old step with ⟨set, demanded, valid, changed⟩ | ⟨idle, kept⟩
      · cases there.symm.trans changed
        exact (ih old).compile _ demanded valid
      · cases there.symm.trans kept
        exact (ih old).idle idle

namespace Session

theorem explicit_of_demanded? {session : Session} {step : SessionStep} {place : Nat} {lexer : Lexer}
    (demanded : session.demanded? step = some (place, lexer)) :
    (∃ name, step = .compile name ∧ session.named? name = some (place, lexer)) ∨
      ((∀ name, step ≠ .compile name) ∧ lexer.compiled = none) := by
  have unready : ∀ {name : String}, ((session.named? name).filter fun found => found.2.compiled.isNone) =
      some (place, lexer) → lexer.compiled = none :=
    fun found => Option.isNone_iff_eq_none.mp (Option.filter_eq_some_iff.mp found).2
  have awaited : ∀ {name : String}, session.awaited? name = some (place, lexer) →
      lexer.compiled = none := by
    intro name found
    unfold awaited? at found
    split at found
    · obtain ⟨other, there, same⟩ := Option.map_eq_some_iff.mp found
      cases same
      exact Option.isNone_iff_eq_none.mp (Option.filter_eq_some_iff.mp there).2
    · cases found
  unfold demanded? at demanded
  split at demanded
  · exact .inl ⟨_, rfl, demanded⟩
  · exact .inr ⟨nofun, unready demanded⟩
  · exact .inr ⟨nofun, unready demanded⟩
  · exact .inr ⟨nofun, unready demanded⟩
  · exact .inr ⟨nofun, awaited demanded⟩
  · exact .inr ⟨nofun, awaited demanded⟩
  · cases demanded

theorem outcome_compile {session : Session} {name : String} {place : Nat} {lexer : Lexer}
    {set : RuleSet} (found : session.named? name = some (place, lexer))
    (valid : RuleSet.ofTable lexer.config (session.rulesOf lexer) = .ok set) :
    (session.moment (.compile name)).outcome = .ok .done := by
  rw [moment_outcome, perform_compile (by exact found), show RuleSet.ofTable lexer.config
    (session.unobserved.rulesOf lexer) = .ok set from valid]

end Session

/-- What a moment does with a lexer that stands at a place. -/
structure Moment.Handles (moment : Moment) (place : Nat) (lexer : Lexer) : Prop where
  failed : ∀ failure, moment.outcome = .error failure → moment.after.lexers[place]? = some lexer ∨
    (lexer.compiled = none ∧ (∀ name, moment.step ≠ .compile name) ∧
      ∃ compiled, RuleSet.ofTable lexer.config (moment.before.rulesOf lexer) = .ok compiled.set ∧
        moment.after.lexers[place]? = some { lexer with compiled := some compiled })
  replaced : lexer.compiled ≠ none → moment.after.lexers[place]? = some lexer ∨
    ∃ name, moment.step = .compile name ∧ moment.before.named? name = some (place, lexer) ∧
      moment.outcome = .ok .done
  scans : ∀ name text compiled, moment.before.named? name = some (place, lexer) →
    lexer.compiled = some compiled → moment.step = .scan name text →
      moment.outcome =
        (compiled.set.scan lexer.config text moment.before.unobserved.context).1.map .scanned
  lexes : ∀ name text compiled, moment.before.named? name = some (place, lexer) →
    lexer.compiled = some compiled → moment.step = .lex name text →
      moment.outcome = (compiled.set.scan lexer.config text moment.before.unobserved.context).1.map
        fun result => .tokens (result.tokens.map some)

theorem Session.handles_moment {session : Session} {place : Nat} {lexer : Lexer}
    (there : session.lexers[place]? = some lexer) (step : SessionStep) :
    (session.moment step).Handles place lexer := by
  have scanned : ∀ name text compiled, session.named? name = some (place, lexer) →
      lexer.compiled = some compiled → perform (.scan name text) session.unobserved =
        session.unobserved.answering (compiled.set.scan lexer.config text) .scanned := by
    intro name text compiled found has
    rw [perform_scan (by exact found), run_rulesFor (by exact there), has]
  have treated := lexer_moment there step
  constructor
  · intro failure failed
    rcases treated with ⟨set, demanded, valid, changed⟩ | ⟨-, kept⟩
    · rcases explicit_of_demanded? demanded with ⟨name, rfl, found⟩ | ⟨implicit, new⟩
      · cases failed.symm.trans (outcome_compile found valid)
      · exact .inr ⟨new, implicit, ⟨session.serial, set⟩, valid, changed⟩
    · exact .inl kept
  · intro compiled
    rcases treated with ⟨set, demanded, valid, changed⟩ | ⟨-, kept⟩
    · rcases explicit_of_demanded? demanded with ⟨name, rfl, found⟩ | ⟨-, new⟩
      · exact .inr ⟨name, rfl, found, outcome_compile found valid⟩
      · exact absurd new compiled
    · exact .inl kept
  · rintro name text compiled found has rfl
    exact congrArg Prod.fst (scanned name text compiled found has)
  · rintro name text compiled found has rfl
    change (perform (.lex name text) session.unobserved).1 =
      (compiled.set.scan lexer.config text session.unobserved.context).1.map _
    rw [perform_lex, scanned name text compiled found has]
    simp only [answering]
    cases (compiled.set.scan lexer.config text session.unobserved.context).1 <;> rfl

/-- The life cycle of lexers over whole histories. -/
theorem Session.lexers_follow_history (steps : List SessionStep) :
    (∀ place lexer, (Session.after {} steps).lexers[place]? = some lexer →
      Lives (Session.history {} steps) place lexer) ∧
    ∀ moment ∈ Session.history {} steps, ∀ place lexer,
      moment.before.lexers[place]? = some lexer → moment.Handles place lexer := by
  refine ⟨fun place lexer there => lives_after steps there, ?_⟩
  intro moment member place lexer there
  obtain ⟨past, future, -, same⟩ := mem_history member
  rw [same] at there ⊢
  exact handles_moment there _

def raisingTable : List Candidate :=
  [.rule (.text "A") (.value (.text "a")) (.callback (Action.callback "A" (.fail "boom"))) (.bool false)]

def raisingSet : RuleSet where
  rules := [htmlBreak, ⟨"A", ['a'], some (Action.callback "A" (.fail "boom")), false, 0, 2⟩]
  pattern :=
    { source := "(<br\\s*/?\\s*>)|(a)".toList
      regex := .alt (.group 1 htmlBreakTree) (.group 2 (.char 97))
      groups := 2
      names := []
      flags := .ofList [.unicode, .multiLine] }

theorem ofTable_raisingTable : RuleSet.ofTable {} (some raisingTable) = .ok raisingSet := rfl

theorem scan_raisingSet (context : Context) :
    (raisingSet.scan {} "a" context).1 = .error (.raised "boom") := rfl

def raisingLexer : Lexer := ⟨.own (some raisingTable), {}, none⟩

def raisingSession : Session := Session.after {} [.newOwn "L" (some raisingTable) none]

theorem ofTable_raisingLexer (session : Session) :
    RuleSet.ofTable raisingLexer.config (session.rulesOf raisingLexer) = .ok raisingSet := by
  rw [show session.rulesOf raisingLexer = some raisingTable from rfl]
  exact ofTable_raisingTable

theorem lexers_raisingSession_scan :
    (raisingSession.moment (.scan "L" "a")).after.lexers =
      [{ raisingLexer with compiled := some ⟨0, raisingSet⟩ }] := by
  have demanded : raisingSession.demanded? (.scan "L" "a") = some (0, raisingLexer) := rfl
  rw [Session.moment_lexers, Session.lexersAfter, demanded]
  simp only [Session.lexersCompiling, ofTable_raisingLexer]
  rw [show raisingSession.lexers = [raisingLexer] from rfl, List.set_cons_zero]
  rfl

/-- A scan that fails in a callback leaves compiled rules behind where there were none. -/
theorem Session.failing_scan_compiles :
    (raisingSession.moment (.scan "L" "a")).outcome = .error (.raised "boom") ∧
      raisingSession.lexers = [raisingLexer] ∧
      (raisingSession.moment (.scan "L" "a")).after.lexers =
        [{ raisingLexer with compiled := some ⟨0, raisingSet⟩ }] := by
  refine ⟨?_, rfl, lexers_raisingSession_scan⟩
  have found : raisingSession.unobserved.named? "L" = some (0, raisingLexer) := rfl
  have there := lexer_of_named? found
  have new : raisingLexer.compiled = none := rfl
  have failed : ∀ session : Session, (session.answering (raisingSet.scan raisingLexer.config "a")
      .scanned).1 = .error (.raised "boom") := by
    intro session
    simp only [answering]
    rw [show raisingLexer.config = {} from rfl, scan_raisingSet]
    rfl
  rw [moment_outcome, perform_scan found, run_rulesFor there, new]
  simp only [run_compileLexer there, ofTable_raisingLexer, failed]

theorem Session.lexers_follow_raisingSteps :
    Lives (Session.history {} [.newOwn "L" (some raisingTable) none, .scan "L" "a"]) 0
      { raisingLexer with compiled := some ⟨0, raisingSet⟩ } := by
  apply (lexers_follow_history [.newOwn "L" (some raisingTable) none, .scan "L" "a"]).1
  have split := Session.after_append {} [.newOwn "L" (some raisingTable) none] [.scan "L" "a"]
  rw [List.singleton_append] at split
  rw [split, Session.after, Session.after, ← raisingSession, lexers_raisingSession_scan]
  rfl

end RuleLexer
