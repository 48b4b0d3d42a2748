import RuleLexer.Regex.Search

namespace RuleLexer

namespace Regex

def shift (offset : Nat) : Regex → Regex
  | .empty => .empty
  | .char code => .char code
  | .any => .any
  | .set negated items => .set negated items
  | .anchor place => .anchor place
  | .seq first second => .seq (first.shift offset) (second.shift offset)
  | .alt first second => .alt (first.shift offset) (second.shift offset)
  | .group index body => .group (index + offset) (body.shift offset)
  | .scoped on off body => .scoped on off (body.shift offset)
  | .repeated greed least most body => .repeated greed least most (body.shift offset)
  | .atomic body => .atomic (body.shift offset)
  | .ahead negated body => .ahead negated (body.shift offset)
  | .behind negated width body => .behind negated width (body.shift offset)
  | .backref index => .backref (index + offset)
  | .conditional index yes no => .conditional (index + offset) (yes.shift offset) (no.shift offset)

theorem shift_zero (regex : Regex) : regex.shift 0 = regex := by
  induction regex <;> simp_all [shift]

theorem shift_ofItems (offset : Nat) (items : List Regex) :
    (ofItems items).shift offset = ofItems (items.map (shift offset)) := by
  induction items with
  | nil => rfl
  | cons item items ih =>
    cases items with
    | nil => rfl
    | cons second others =>
      rw [ofItems, shift, ih]
      · rfl
      · simp

theorem shift_ofAlternatives (offset : Nat) (choices : List Regex) :
    (ofAlternatives choices).shift offset = ofAlternatives (choices.map (shift offset)) := by
  induction choices with
  | nil => rfl
  | cons choice choices ih =>
    cases choices with
    | nil => rfl
    | cons second others =>
      rw [ofAlternatives, shift, ih]
      · rfl
      · simp

theorem width_shift {groups groups' : Nat → Width} {offset : Nat}
    (same : ∀ index, groups' (index + offset) = groups index) (regex : Regex) :
    (regex.shift offset).width groups' = regex.width groups := by
  induction regex <;> simp_all [shift, width]

theorem check_shift (template : Bool) (offset : Nat) (regex : Regex) :
    (regex.shift offset).check template = regex.check template := by
  induction regex with
  | repeated greed least most body ih => simp only [shift, check, ih]
  | _ => simp_all [shift, check]

end Regex

namespace Cursor

def shift (offset : Nat) (cursor : Cursor) : Cursor where
  position := cursor.position
  captures := cursor.captures.map fun (group, span) => (group + offset, span)
  lastGroup := cursor.lastGroup.map (· + offset)

variable (offset : Nat) (cursor : Cursor)

@[simp] theorem shift_position : (cursor.shift offset).position = cursor.position := rfl

theorem shift_moveTo (position : Nat) :
    (cursor.moveTo position).shift offset = (cursor.shift offset).moveTo position := rfl

theorem lookup_shift {α : Type} (entries : List (Nat × α)) (group : Nat) :
    (entries.map fun (index, value) => (index + offset, value)).lookup (group + offset) =
      entries.lookup group := by
  induction entries with
  | nil => rfl
  | cons entry entries ih =>
    obtain ⟨index, value⟩ := entry
    rw [List.map_cons, List.lookup_cons, List.lookup_cons, ih]
    have same : (group + offset == index + offset) = (group == index) := by
      rw [Bool.eq_iff_iff, beq_iff_eq, beq_iff_eq]
      omega
    rw [same]

@[simp] theorem capture?_shift (group : Nat) :
    (cursor.shift offset).capture? (group + offset) = cursor.capture? group :=
  lookup_shift offset cursor.captures group

end Cursor

namespace Step

/-- The second step does to shifted partial matches what the first does, up to `translate`, whenever
their rests do. -/
def Shifts (offset : Nat) (step shifted : Step) : Prop :=
  ∀ (translate : Cursor → Cursor) (next next' : Continuation),
    (∀ cursor, next' (cursor.shift offset) = (next cursor).map translate) →
      ∀ cursor, shifted (cursor.shift offset) next' = (step cursor next).map translate

variable {offset : Nat} {step shifted : Step}

theorem Shifts.times (shifts : Shifts offset step shifted) (count : Nat) :
    Shifts offset (step.times count) (shifted.times count) := by
  intro translate next next' rest
  induction count with
  | zero => exact rest
  | succ count ih => exact shifts translate _ _ ih

theorem Shifts.iteration (shifts : Shifts offset step shifted) {translate : Cursor → Cursor}
    {next next' : Continuation}
    (rest : ∀ cursor, next' (cursor.shift offset) = (next cursor).map translate)
    (again again' : Continuation)
    (others : ∀ cursor, again' (cursor.shift offset) = (again cursor).map translate)
    (cursor : Cursor) :
    (shifted (cursor.shift offset) fun reached =>
      if reached.position = cursor.position then next' reached else again' reached) =
    (step cursor fun reached =>
      if reached.position = cursor.position then next reached else again reached).map translate := by
  refine shifts translate _ _ (fun reached => ?_) cursor
  rw [Cursor.shift_position]
  split
  · exact rest reached
  · exact others reached

theorem Shifts.greedily (shifts : Shifts offset step shifted) (count : Nat) :
    Shifts offset (step.greedily count) (shifted.greedily count) := by
  intro translate next next' rest
  induction count with
  | zero => exact rest
  | succ count ih =>
    intro cursor
    have more := shifts.iteration rest (step.greedily count · next)
      (shifted.greedily count · next') ih cursor
    simp only [Step.greedily, Option.orElse_eq_orElse, Option.orElse_eq_or, Option.map_or]
    exact congr (congrArg Option.or more) (rest cursor)

theorem Shifts.lazily (shifts : Shifts offset step shifted) (count : Nat) :
    Shifts offset (step.lazily count) (shifted.lazily count) := by
  intro translate next next' rest
  induction count with
  | zero => exact rest
  | succ count ih =>
    intro cursor
    have more := shifts.iteration rest (step.lazily count · next)
      (shifted.lazily count · next') ih cursor
    simp only [Step.lazily, Option.orElse_eq_orElse, Option.orElse_eq_or, Option.map_or]
    exact congr (congrArg Option.or (rest cursor)) more

theorem Shifts.first (shifts : Shifts offset step shifted) (cursor : Cursor) :
    shifted.first (cursor.shift offset) = (step.first cursor).map (Cursor.shift offset) :=
  shifts (Cursor.shift offset) some some (fun _ => rfl) cursor

theorem Shifts.firstTimes (shifts : Shifts offset step shifted) (count : Nat) (cursor : Cursor) :
    shifted.firstTimes count (cursor.shift offset) =
      (step.firstTimes count cursor).map (Cursor.shift offset) := by
  induction count generalizing cursor with
  | zero => rfl
  | succ count ih =>
    simp only [Step.firstTimes, shifts.first]
    cases step.first cursor with
    | none => rfl
    | some reached => exact ih reached

theorem Shifts.firstGreedily (shifts : Shifts offset step shifted) (count : Nat) (cursor : Cursor) :
    shifted.firstGreedily count (cursor.shift offset) =
      (step.firstGreedily count cursor).shift offset := by
  induction count generalizing cursor with
  | zero => rfl
  | succ count ih =>
    simp only [Step.firstGreedily, shifts.first]
    cases step.first cursor with
    | none => rfl
    | some reached =>
      by_cases same : reached.position = cursor.position
      · simp [same]
      · simp [same, ih reached]

theorem Shifts.repeatedly (shifts : Shifts offset step shifted) (greed : Greed) (least : Nat)
    (most : Option Nat) (size : Nat) : Shifts offset (step.repeatedly greed least most size)
      (shifted.repeatedly greed least most size) := by
  intro translate next next' rest cursor
  cases greed with
  | greedy => exact shifts.times least translate _ _ (shifts.greedily _ translate _ _ rest) cursor
  | lazy => exact shifts.times least translate _ _ (shifts.lazily _ translate _ _ rest) cursor
  | possessive =>
    simp only [Step.repeatedly, shifts.firstTimes]
    cases step.firstTimes least cursor with
    | none => rfl
    | some reached =>
      simp only [Option.map_some, Option.bind_some, shifts.firstGreedily]
      exact rest _

theorem character_shifts (offset : Nat) (text : Array Char) (accepts : Nat → Bool) :
    Shifts offset (Step.character text accepts) (Step.character text accepts) := by
  intro translate next next' rest cursor
  simp only [Step.character, Cursor.shift_position]
  split
  · split
    · exact rest cursor.advance
    · rfl
  · rfl

end Step

namespace Regex

theorem look_shifts {offset : Nat} {translate : Cursor → Cursor} {next next' : Continuation}
    (rest : ∀ cursor, next' (cursor.shift offset) = (next cursor).map translate)
    (seen? : Option Cursor) (negated : Bool) (cursor : Cursor) :
    (match seen?.map (Cursor.shift offset) with
      | some seen => if negated then none else next' (seen.moveTo cursor.position)
      | none => if negated then next' (cursor.shift offset) else none) =
    (match seen? with
      | some seen => if negated then none else next (seen.moveTo cursor.position)
      | none => if negated then next cursor else none).map translate := by
  cases seen? with
  | none =>
    cases negated with
    | true => exact rest cursor
    | false => rfl
  | some seen =>
    cases negated with
    | true => rfl
    | false => exact rest (seen.moveTo cursor.position)

theorem run_shifts (offset : Nat) (text : Array Char) (regex : Regex) (mode : Mode) :
    Step.Shifts offset (regex.run text mode) ((regex.shift offset).run text mode) := by
  induction regex generalizing mode with
  | empty => exact fun translate next next' rest cursor => rest cursor
  | char code => exact Step.character_shifts offset text _
  | any => exact Step.character_shifts offset text _
  | set negated items => exact Step.character_shifts offset text _
  | anchor place =>
    intro translate next next' rest cursor
    cases holds : mode.holdsAt text cursor.position place with
    | true => simp [shift, run, holds, rest cursor]
    | false => simp [shift, run, holds]
  | seq first second ihFirst ihSecond =>
    intro translate next next' rest cursor
    exact ihFirst mode translate _ _ (ihSecond mode translate _ _ rest) cursor
  | alt first second ihFirst ihSecond =>
    intro translate next next' rest cursor
    simp only [shift, run, Option.orElse_eq_orElse, Option.orElse_eq_or, Option.map_or]
    rw [ihFirst mode translate _ _ rest, ihSecond mode translate _ _ rest]
  | group index body ih =>
    -- The group is closed with its own number here and with the shifted one there.
    intro translate next next' rest cursor
    exact ih mode translate _ _
      (fun reached => rest (reached.close index cursor.position)) cursor
  | «scoped» on off body ih => exact ih _
  | repeated greed least most body ih => exact (ih mode).repeatedly greed least most text.size
  | atomic body ih =>
    intro translate next next' rest cursor
    simp only [shift, run, (ih mode).first]
    cases (body.run text mode).first cursor with
    | none => rfl
    | some reached => exact rest reached
  | ahead negated body ih =>
    intro translate next next' rest cursor
    simp only [shift, run, (ih mode).first]
    exact look_shifts rest _ negated cursor
  | behind negated width body ih =>
    intro translate next next' rest cursor
    have back := (ih mode).first (cursor.moveTo (cursor.position - width.least))
    by_cases near : cursor.position < width.least
    · have nearToo : (cursor.shift offset).position < width.least := near
      simp only [shift, run, if_pos near, if_pos nearToo]
      exact look_shifts rest none negated cursor
    · rw [Cursor.shift_moveTo] at back
      simp only [shift, run, if_neg near, Cursor.shift_position, back]
      exact look_shifts rest _ negated cursor
  | backref index =>
    intro translate next next' rest cursor
    simp only [shift, run, Cursor.capture?_shift, Cursor.shift_position]
    cases cursor.capture? index with
    | none => rfl
    | some span =>
      cases stands : mode.standsAt text span cursor.position with
      | true =>
        have again := rest (cursor.moveTo (cursor.position + (span.stop - span.start)))
        simpa [stands, Cursor.shift_moveTo] using again
      | false => simp [stands]
  | conditional index yes no ihYes ihNo =>
    intro translate next next' rest cursor
    simp only [shift, run, Cursor.capture?_shift]
    split
    · exact ihYes mode translate _ _ rest cursor
    · exact ihNo mode translate _ _ rest cursor

end Regex

def Match.embed (offset : Nat) (found : Match) : Match where
  start := found.start
  stop := found.stop
  captures := (offset, ⟨found.start, found.stop⟩) ::
    found.captures.map fun (group, span) => (group + offset, span)
  lastGroup := some offset

namespace Match

theorem capture?_embed_self (offset : Nat) (found : Match) :
    (found.embed offset).capture? offset = some ⟨found.start, found.stop⟩ := by
  simp [embed, capture?]

theorem capture?_embed (offset : Nat) (found : Match) {group : Nat} (own : 0 < group) :
    (found.embed offset).capture? (group + offset) = found.capture? group := by
  have other : (group + offset == offset) = false := by
    simp only [beq_eq_false_iff_ne]
    omega
  simp only [embed, capture?, List.lookup_cons, other]
  exact Cursor.lookup_shift offset found.captures group

end Match

/-- A pattern behind the groups of others and in a group of its own matches as it does alone. -/
theorem Pattern.matchAt?_embed {alone whole : Pattern} {offset : Nat}
    (regex : whole.regex = .group offset (alone.regex.shift offset))
    (mode : whole.mode = alone.mode) (text : Array Char) (start : Nat) (nonempty : Bool) :
    whole.matchAt? text start nonempty =
      (alone.matchAt? text start nonempty).map (Match.embed offset) := by
  -- The match in the group is the match alone, shifted, with the group closed behind it.
  let translate (cursor : Cursor) : Cursor := (cursor.shift offset).close offset start
  have same := Regex.run_shifts offset text alone.regex alone.mode translate
    (fun cursor => if nonempty && cursor.position == start then none else some cursor)
    (fun cursor => if nonempty && cursor.position == start then none
      else some (cursor.close offset start)) (by
      intro cursor
      rw [Cursor.shift_position]
      split <;> rfl) (.start start)
  have both : whole.regex.run text whole.mode (.start start) (fun cursor =>
      if nonempty && cursor.position == start then none else some cursor) =
      (alone.regex.run text alone.mode (.start start) fun cursor =>
        if nonempty && cursor.position == start then none else some cursor).map translate := by
    rw [regex, mode]
    exact same
  simp only [matchAt?, both, Option.map_map]
  rfl

end RuleLexer
