import RuleLexer.Regex.Matching

namespace RuleLexer

namespace Step

/-- A step hands its rest only places from its own start up to the end of the text. -/
def Proceeds (text : Array Char) (step : Step) : Prop :=
  ∀ cursor next result, cursor.position ≤ text.size → step cursor next = some result →
    ∃ reached, cursor.position ≤ reached.position ∧ reached.position ≤ text.size ∧
      next reached = some result

variable {text : Array Char} {step : Step}

theorem Proceeds.times (proceeds : step.Proceeds text) (count : Nat) :
    (step.times count).Proceeds text := by
  induction count with
  | zero => exact fun cursor next result inside found => ⟨cursor, Nat.le_refl _, inside, found⟩
  | succ count ih =>
    intro cursor next result inside found
    obtain ⟨middle, after, within, rest⟩ := proceeds _ _ _ inside found
    obtain ⟨reached, later, bound, last⟩ := ih _ _ _ within rest
    exact ⟨reached, Nat.le_trans after later, bound, last⟩

theorem Proceeds.greedily (proceeds : step.Proceeds text) (count : Nat) :
    (step.greedily count).Proceeds text := by
  induction count with
  | zero => exact fun cursor next result inside found => ⟨cursor, Nat.le_refl _, inside, found⟩
  | succ count ih =>
    intro cursor next result inside found
    rw [Step.greedily, Option.orElse_eq_orElse, Option.orElse_eq_or, Option.or_eq_some_iff] at found
    rcases found with more | ⟨_, stop⟩
    · obtain ⟨middle, after, within, rest⟩ := proceeds _ _ _ inside more
      -- An iteration that has matched nothing is the last one.
      split at rest
      · exact ⟨middle, after, within, rest⟩
      · obtain ⟨reached, later, bound, last⟩ := ih _ _ _ within rest
        exact ⟨reached, Nat.le_trans after later, bound, last⟩
    · exact ⟨cursor, Nat.le_refl _, inside, stop⟩

theorem Proceeds.lazily (proceeds : step.Proceeds text) (count : Nat) :
    (step.lazily count).Proceeds text := by
  induction count with
  | zero => exact fun cursor next result inside found => ⟨cursor, Nat.le_refl _, inside, found⟩
  | succ count ih =>
    intro cursor next result inside found
    rw [Step.lazily, Option.orElse_eq_orElse, Option.orElse_eq_or, Option.or_eq_some_iff] at found
    rcases found with stop | ⟨_, more⟩
    · exact ⟨cursor, Nat.le_refl _, inside, stop⟩
    · obtain ⟨middle, after, within, rest⟩ := proceeds _ _ _ inside more
      split at rest
      · exact ⟨middle, after, within, rest⟩
      · obtain ⟨reached, later, bound, last⟩ := ih _ _ _ within rest
        exact ⟨reached, Nat.le_trans after later, bound, last⟩

theorem Proceeds.first (proceeds : step.Proceeds text) {cursor reached : Cursor}
    (inside : cursor.position ≤ text.size) (found : step.first cursor = some reached) :
    cursor.position ≤ reached.position ∧ reached.position ≤ text.size := by
  obtain ⟨seen, after, within, same⟩ := proceeds _ _ _ inside found
  cases same
  exact ⟨after, within⟩

theorem Proceeds.firstTimes (proceeds : step.Proceeds text) {count : Nat} {cursor reached : Cursor}
    (inside : cursor.position ≤ text.size) (found : step.firstTimes count cursor = some reached) :
    cursor.position ≤ reached.position ∧ reached.position ≤ text.size := by
  induction count generalizing cursor with
  | zero => cases found; exact ⟨Nat.le_refl _, inside⟩
  | succ count ih =>
    obtain ⟨middle, once, rest⟩ := Option.bind_eq_some_iff.mp found
    have here := proceeds.first inside once
    have later := ih here.2 rest
    exact ⟨Nat.le_trans here.1 later.1, later.2⟩

theorem Proceeds.firstGreedily (proceeds : step.Proceeds text) (count : Nat) {cursor : Cursor}
    (inside : cursor.position ≤ text.size) :
    cursor.position ≤ (step.firstGreedily count cursor).position ∧
      (step.firstGreedily count cursor).position ≤ text.size := by
  induction count generalizing cursor with
  | zero => exact ⟨Nat.le_refl _, inside⟩
  | succ count ih =>
    rw [Step.firstGreedily]
    cases once : step.first cursor with
    | none => exact ⟨Nat.le_refl _, inside⟩
    | some middle =>
      have here := proceeds.first inside once
      dsimp only
      split
      · exact here
      · have later := ih here.2
        exact ⟨Nat.le_trans here.1 later.1, later.2⟩

theorem Proceeds.repeatedly (proceeds : step.Proceeds text) (greed : Greed) (least : Nat)
    (most : Option Nat) (size : Nat) : (step.repeatedly greed least most size).Proceeds text := by
  intro cursor next result inside found
  cases greed with
  | greedy =>
    obtain ⟨middle, after, within, rest⟩ := proceeds.times least _ _ _ inside found
    obtain ⟨reached, later, bound, last⟩ := proceeds.greedily _ _ _ _ within rest
    exact ⟨reached, Nat.le_trans after later, bound, last⟩
  | lazy =>
    obtain ⟨middle, after, within, rest⟩ := proceeds.times least _ _ _ inside found
    obtain ⟨reached, later, bound, last⟩ := proceeds.lazily _ _ _ _ within rest
    exact ⟨reached, Nat.le_trans after later, bound, last⟩
  | possessive =>
    obtain ⟨middle, times, rest⟩ := Option.bind_eq_some_iff.mp found
    have here := proceeds.firstTimes inside times
    refine ⟨_, Nat.le_trans here.1 ?_, ?_, rest⟩
    · exact (proceeds.firstGreedily _ here.2).1
    · exact (proceeds.firstGreedily _ here.2).2

theorem character_proceeds (text : Array Char) (accepts : Nat → Bool) :
    (Step.character text accepts).Proceeds text := by
  intro cursor next result inside found
  unfold Step.character codeAt? at found
  cases code : text[cursor.position]? with
  | none => simp [code] at found
  | some c =>
    have bound := (Array.getElem?_eq_some_iff.mp code).choose
    simp only [code, Option.map_some] at found
    split at found
    · exact ⟨cursor.advance, Nat.le_succ _, bound, found⟩
    · cases found

end Step

theorem Mode.standsAt_inside {mode : Mode} {text : Array Char} {span : Span} {position : Nat}
    (inside : position ≤ text.size) (stands : mode.standsAt text span position = true) :
    position + (span.stop - span.start) ≤ text.size := by
  by_cases empty : span.stop - span.start = 0
  · omega
  · have last := List.all_eq_true.mp stands (span.stop - span.start - 1)
      (List.mem_range.mpr (by omega))
    split at last
    · rename_i second
      unfold codeAt? at second
      obtain ⟨c, found, _⟩ := Option.map_eq_some_iff.mp second
      have bound := (Array.getElem?_eq_some_iff.mp found).choose
      omega
    · cases last

namespace Regex

theorem look_eq_some {seen? : Option Cursor} {negated : Bool} {cursor result : Cursor}
    {next : Continuation}
    (found : (match seen? with
      | some seen => if negated then none else next (seen.moveTo cursor.position)
      | none => if negated then next cursor else none) = some result) :
    ∃ reached, reached.position = cursor.position ∧ next reached = some result := by
  cases seen? with
  | none =>
    cases negated with
    | true => exact ⟨cursor, rfl, found⟩
    | false => cases found
  | some seen =>
    cases negated with
    | true => cases found
    | false => exact ⟨seen.moveTo cursor.position, rfl, found⟩

theorem run_proceeds (text : Array Char) (regex : Regex) (mode : Mode) :
    (regex.run text mode).Proceeds text := by
  -- Every part hands the rest of the pattern a cursor that is no less far and inside the text.
  induction regex generalizing mode with
  | empty => exact fun cursor next result inside found => ⟨cursor, Nat.le_refl _, inside, found⟩
  | char code => exact Step.character_proceeds text _
  | any => exact Step.character_proceeds text _
  | set negated items => exact Step.character_proceeds text _
  | anchor place =>
    intro cursor next result inside found
    simp only [run] at found
    split at found
    · exact ⟨cursor, Nat.le_refl _, inside, found⟩
    · cases found
  | seq first second ihFirst ihSecond =>
    intro cursor next result inside found
    obtain ⟨middle, after, within, rest⟩ := ihFirst mode _ _ _ inside found
    obtain ⟨reached, later, bound, last⟩ := ihSecond mode _ _ _ within rest
    exact ⟨reached, Nat.le_trans after later, bound, last⟩
  | alt first second ihFirst ihSecond =>
    intro cursor next result inside found
    simp only [run, Option.orElse_eq_orElse, Option.orElse_eq_or, Option.or_eq_some_iff] at found
    rcases found with one | ⟨_, other⟩
    · exact ihFirst mode _ _ _ inside one
    · exact ihSecond mode _ _ _ inside other
  | group index body ih =>
    intro cursor next result inside found
    obtain ⟨reached, after, within, rest⟩ := ih mode _ _ _ inside found
    exact ⟨reached.close index cursor.position, after, within, rest⟩
  | «scoped» on off body ih => exact ih _
  | repeated greed least most body ih => exact (ih mode).repeatedly greed least most text.size
  | atomic body ih =>
    intro cursor next result inside found
    obtain ⟨reached, once, rest⟩ := Option.bind_eq_some_iff.mp found
    have here := (ih mode).first inside once
    exact ⟨reached, here.1, here.2, rest⟩
  | ahead negated body ih =>
    intro cursor next result inside found
    obtain ⟨reached, same, rest⟩ := look_eq_some found
    exact ⟨reached, Nat.le_of_eq same.symm, same ▸ inside, rest⟩
  | behind negated width body ih =>
    intro cursor next result inside found
    obtain ⟨reached, same, rest⟩ := look_eq_some found
    exact ⟨reached, Nat.le_of_eq same.symm, same ▸ inside, rest⟩
  | backref index =>
    intro cursor next result inside found
    simp only [run] at found
    split at found
    · split at found
      · rename_i stands
        exact ⟨_, Nat.le_add_right _ _, Mode.standsAt_inside inside stands, found⟩
      · cases found
    · cases found
  | conditional index yes no ihYes ihNo =>
    intro cursor next result inside found
    simp only [run] at found
    split at found
    · exact ihYes mode _ _ _ inside found
    · exact ihNo mode _ _ _ inside found

end Regex

end RuleLexer
