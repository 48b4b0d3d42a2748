import RuleLexer.Proofs.Regex.Landmarks
import RuleLexer.Proofs.Regex.Shift

namespace RuleLexer

variable {α β : Type}

def Piece.isIdle : Piece → Bool
  | .plain c => c = '&' || c = ')' || c = '|' || c = '\n'
  | _ => false

/-- The second rest starts like the first, up to its end or to an idle piece. -/
structure Resembles (rest other : List Piece) : Prop where
  closed : .dangling ∉ other
  agrees : ∃ common more more', rest = common ++ more ∧ other = common ++ more' ∧
    ∀ piece ∈ more'.head?, piece.isIdle = true

namespace Resembles

variable {rest other : List Piece}

theorem refl (closed : .dangling ∉ rest) : Resembles rest rest :=
  ⟨closed, rest, [], [], (List.append_nil _).symm, (List.append_nil _).symm, nofun⟩

theorem ne_dangling (resembles : Resembles rest other) : other ≠ [.dangling] := by
  intro same
  exact resembles.closed (same ▸ List.mem_singleton_self _)

theorem append {chunk : List Piece} (closed : .dangling ∉ chunk)
    (resembles : Resembles rest other) : Resembles (chunk ++ rest) (chunk ++ other) := by
  obtain ⟨closed', common, more, more', here, there, idle⟩ := resembles
  refine ⟨fun member => (List.mem_append.mp member).elim closed closed', chunk ++ common, more,
    more', ?_, ?_, idle⟩
  · rw [here, List.append_assoc]
  · rw [there, List.append_assoc]

theorem starts {front back : List Piece} (resembles : Resembles rest other)
    (split : other = front ++ back) (busy : ∀ piece ∈ front, piece.isIdle = false) :
    ∃ back', rest = front ++ back' := by
  obtain ⟨-, common, more, more', rfl, there, idle⟩ := resembles
  rcases List.append_eq_append_iff.mp (there.symm.trans split) with
    ⟨extra, front', more''⟩ | ⟨extra, common', -⟩
  · cases extra with
    | nil => exact ⟨more, by rw [front', List.append_nil]⟩
    | cons piece extra =>
      have here := idle piece (by rw [more'']; rfl)
      have member : piece ∈ front := by rw [front']; simp
      cases here.symm.trans (busy piece member)
  · exact ⟨extra ++ more, by rw [common', List.append_assoc]⟩

theorem head? {piece : Piece} (resembles : Resembles rest other)
    (head : other.head? = some piece) (busy : piece.isIdle = false) : rest.head? = some piece := by
  obtain ⟨back, split⟩ := List.head?_eq_some_iff.mp head
  have single : ∀ other ∈ [piece], other.isIdle = false := fun other member => by
    rw [List.mem_singleton.mp member]
    exact busy
  have split : other = [piece] ++ back := split
  obtain ⟨back', same⟩ := resembles.starts split single
  rw [same]
  rfl

end Resembles

def Sound (rest : List Piece) : Prop :=
  ∀ front back, rest = front ++ .dangling :: back → front ≠ [] ∧ back = []

namespace Sound

theorem nil : Sound [] := by
  intro front back split
  simp at split

theorem of_not_mem {rest : List Piece} (closed : .dangling ∉ rest) : Sound rest := by
  intro front back split
  exact absurd (by rw [split]; simp) closed

theorem tail {piece : Piece} {rest : List Piece} (sound : Sound (piece :: rest))
    (more : rest ≠ [.dangling]) : piece ≠ .dangling ∧ Sound rest := by
  refine ⟨?_, fun front back split => ?_⟩
  · rintro rfl
    exact (sound [] rest rfl).1 rfl
  · obtain ⟨-, last⟩ := sound (piece :: front) back (by rw [split]; rfl)
    refine ⟨?_, last⟩
    rintro rfl
    exact more (by rw [split, last]; rfl)

theorem behind {front rest : List Piece} (sound : Sound (front ++ rest))
    (more : rest ≠ [.dangling]) : Sound rest := by
  intro before after split
  obtain ⟨-, last⟩ := sound (front ++ before) after (by rw [split, List.append_assoc])
  refine ⟨?_, last⟩
  rintro rfl
  exact more (by rw [split, last]; rfl)

theorem goTo {piece : Piece} {behind : List Piece} {position : Nat} {middle : Input}
    (sound : Sound (piece :: behind)) (moved : Input.goTo position behind = .ok middle) :
    middle.rest = behind ∧ piece ≠ .dangling ∧ Sound behind := by
  refine ⟨Input.goTo_rest _ _ middle moved, sound.tail ?_⟩
  rintro rfl
  cases moved

end Sound

/-- What has been computed from the input takes pieces of a kind only, and is computed again wherever
these pieces stand. The readers that do so may have fuel, which has to exceed the number of the
pieces. -/
def Local (kind : Piece → Bool) (input : Input) (computed : Except Rejection (α × Input))
    (again : Nat → Input → Except Rejection (α × Input)) : Prop :=
  Sound input.rest → Ensures computed fun (value, after) =>
    Sound after.rest ∧ ∃ chunk, input.rest = chunk ++ after.rest ∧ .dangling ∉ chunk ∧
      (∀ piece ∈ chunk, kind piece = true) ∧
      ∀ (fuel : Nat) (twin : Input) (rest : List Piece), chunk.length < fuel →
        twin.rest = chunk ++ rest → Resembles after.rest rest →
          ∃ left, again fuel twin = .ok (value, left) ∧ left.rest = rest

namespace Local

variable {kind : Piece → Bool} {input : Input}

theorem ok (value : α) : Local kind input (.ok (value, input)) fun _ twin => .ok (value, twin) := by
  intro sound
  refine .ok ⟨sound, [], rfl, nofun, nofun, fun _ twin rest _ same _ => ?_⟩
  exact ⟨twin, rfl, same⟩

theorem of_never {computed : Except Rejection (α × Input)}
    {again : Nat → Input → Except Rejection (α × Input)}
    (never : Ensures computed fun _ => False) : Local kind input computed again :=
  fun _ => never.mono fun _ => False.elim

theorem error {failure : Rejection} {again : Nat → Input → Except Rejection (α × Input)} :
    Local kind input (.error failure) again :=
  of_never .error

theorem bind {computed : Except Rejection (α × Input)}
    {again : Nat → Input → Except Rejection (α × Input)}
    {next : α × Input → Except Rejection (β × Input)}
    {next' : Nat → Input → α × Input → Except Rejection (β × Input)}
    (first : Local kind input computed again)
    (rest : ∀ value middle twin, Local kind middle (next (value, middle))
      fun fuel x => next' fuel twin (value, x)) :
    Local kind input (computed >>= next) fun fuel twin => again fuel twin >>= next' fuel twin := by
  rintro sound ⟨result, after⟩ returned
  obtain ⟨⟨value, middle⟩, here, later⟩ := bind_eq_ok_iff.mp returned
  obtain ⟨sound, chunk, split, closed, own, repeats⟩ := first sound _ here
  obtain ⟨sound', chunk', split', closed', own', -⟩ := rest value middle input sound _ later
  refine ⟨sound', chunk ++ chunk', by rw [split, split', List.append_assoc], ?_, ?_, ?_⟩
  · exact fun member => (List.mem_append.mp member).elim closed closed'
  · exact fun piece member => (List.mem_append.mp member).elim (own piece) (own' piece)
  · intro fuel twin back enough same resembles
    rw [List.length_append] at enough
    have onward : Resembles middle.rest (chunk' ++ back) := split' ▸ resembles.append closed'
    obtain ⟨left, computed', stands⟩ := repeats fuel twin (chunk' ++ back) (by omega)
      (by rw [same, List.append_assoc]) onward
    obtain ⟨-, other, split'', -, -, repeats'⟩ := rest value middle twin sound _ later
    cases List.append_cancel_right (split'.symm.trans split'')
    obtain ⟨last, computed'', stands'⟩ := repeats' fuel left back (by omega) stands resembles
    refine ⟨last, ?_, stands'⟩
    show again fuel twin >>= next' fuel twin = _
    rw [computed']
    exact computed''

theorem value {part : Except Rejection α} {part' : Nat → Input → Except Rejection α}
    {next : α → Except Rejection (β × Input)}
    {next' : Nat → Input → α → Except Rejection (β × Input)}
    (same : ∀ value, part = .ok value → ∀ fuel twin, part' fuel twin = .ok value)
    (rest : ∀ value, Local kind input (next value) fun fuel twin => next' fuel twin value) :
    Local kind input (part >>= next) fun fuel twin => part' fuel twin >>= next' fuel twin := by
  cases computed : part with
  | error failure => exact error
  | ok value =>
    rintro sound ⟨result, after⟩ returned
    obtain ⟨sound, chunk, split, closed, own, repeats⟩ := rest value sound _ returned
    refine ⟨sound, chunk, split, closed, own, fun fuel twin back enough stands resembles => ?_⟩
    show ∃ left, part' fuel twin >>= next' fuel twin = _ ∧ _
    rw [same value computed]
    exact repeats fuel twin back enough stands resembles

theorem ite {test : Prop} [Decidable test] {one other : Except Rejection (α × Input)}
    {one' other' : Nat → Input → Except Rejection (α × Input)}
    (holds : test → Local kind input one one') (fails : ¬test → Local kind input other other') :
    Local kind input (if test then one else other)
      fun fuel twin => if test then one' fuel twin else other' fuel twin := by
  by_cases given : test
  · simp only [if_pos given]
    exact holds given
  · simp only [if_neg given]
    exact fails given

theorem mono {wider : Piece → Bool} {computed : Except Rejection (α × Input)}
    {again : Nat → Input → Except Rejection (α × Input)} (first : Local kind input computed again)
    (widen : ∀ piece, kind piece = true → wider piece = true) :
    Local wider input computed again := by
  intro sound
  refine (first sound).mono fun (value, after) ⟨sound, chunk, split, closed, own, repeats⟩ => ?_
  exact ⟨sound, chunk, split, closed, fun piece member => widen piece (own piece member), repeats⟩

/-- The input is never too short for fuel that is taken from its length. -/
theorem fueled {computed : Except Rejection (α × Input)}
    {again : Nat → Input → Except Rejection (α × Input)} (first : Local kind input computed again) :
    Local kind input computed fun _ twin => again (twin.rest.length + 1) twin := by
  intro sound
  refine (first sound).mono fun (value, after) ⟨sound, chunk, split, closed, own, repeats⟩ => ?_
  refine ⟨sound, chunk, split, closed, own, fun _ twin rest _ stands resembles => ?_⟩
  refine repeats _ twin rest ?_ stands resembles
  rw [stands, List.length_append]
  omega

theorem more {computed : Except Rejection (α × Input)}
    {again : Nat → Input → Except Rejection (α × Input)} (first : Local kind input computed again) :
    Local kind input computed fun fuel twin => again (fuel + 1) twin := by
  intro sound
  refine (first sound).mono fun (value, after) ⟨sound, chunk, split, closed, own, repeats⟩ => ?_
  refine ⟨sound, chunk, split, closed, own, fun fuel twin rest enough stands resembles => ?_⟩
  exact repeats (fuel + 1) twin rest (by omega) stands resembles

theorem loop {next : Option Piece × Input → Except Rejection (α × Input)}
    {again : Nat → Input → Except Rejection (α × Input)}
    {next' : Nat → Input → Option Piece × Input → Except Rejection (α × Input)}
    (unfolds : ∀ fuel twin, again (fuel + 1) twin = twin.take >>= next' fuel twin)
    (none : ∀ middle, Ensures (next (none, middle)) fun _ => False)
    (own : ∀ piece middle, Ensures (next (some piece, middle)) fun _ => kind piece = true)
    (rest : ∀ piece middle twin, Local kind middle (next (some piece, middle))
      fun fuel x => next' fuel twin (some piece, x)) :
    Local kind input (input.take >>= next) again := by
  intro sound
  cases head : input.rest with
  | nil =>
    rintro result returned
    simp only [Input.take, head] at returned
    exact (none _ _ returned).elim
  | cons piece behind =>
    rw [Input.take_bind head]
    rintro ⟨value, after⟩ returned
    obtain ⟨middle, moved, later⟩ := bind_eq_ok_iff.mp returned
    obtain ⟨same, closed, sound⟩ := (head ▸ sound).goTo moved
    rw [← same] at sound
    obtain ⟨sound', chunk, split, closed', own', -⟩ := rest piece middle input sound _ later
    refine ⟨sound', piece :: chunk, by rw [← same, split]; rfl, by simp [closed', closed.symm], ?_, ?_⟩
    · exact List.forall_mem_cons.mpr ⟨own piece middle _ later, own'⟩
    · intro fuel twin back enough stands resembles
      -- The twin spends one unit of fuel on the first piece, as it does on every other one.
      cases fuel with
      | zero => omega
      | succ fuel =>
        rw [List.length_cons] at enough
        have onward : Resembles middle.rest (chunk ++ back) := split ▸ resembles.append closed'
        have moved' : Input.goTo (twin.position + piece.length) (chunk ++ back) =
            .ok ⟨twin.position + piece.length, chunk ++ back⟩ := if_neg onward.ne_dangling
        have head' : twin.rest = piece :: (chunk ++ back) := stands
        rw [unfolds, Input.take_bind head', moved']
        obtain ⟨-, other, split', -, -, repeats⟩ := rest piece middle twin sound _ later
        cases List.append_cancel_right (split.symm.trans split')
        exact repeats fuel _ back (by omega) rfl resembles

theorem take {next : Option Piece × Input → Except Rejection (α × Input)}
    {next' : Nat → Input → Option Piece × Input → Except Rejection (α × Input)}
    (none : ∀ middle, Ensures (next (none, middle)) fun _ => False)
    (own : ∀ piece middle, Ensures (next (some piece, middle)) fun _ => kind piece = true)
    (rest : ∀ piece middle twin, Local kind middle (next (some piece, middle))
      fun fuel x => next' fuel twin (some piece, x)) :
    Local kind input (input.take >>= next) fun fuel twin => twin.take >>= next' fuel twin :=
  loop (fun _ _ => rfl) none own fun piece middle twin => (rest piece middle twin).more

theorem accept {c : Char} (own : kind (.plain c) = true) (busy : (Piece.plain c).isIdle = false) :
    Local kind input (input.accept c) fun _ twin => twin.accept c := by
  intro sound
  by_cases head : input.rest.head? = some (.plain c)
  · obtain ⟨behind, split⟩ := List.head?_eq_some_iff.mp head
    rw [Input.accept_of_head split]
    intro result returned
    obtain ⟨middle, moved, same⟩ := bind_eq_ok_iff.mp returned
    cases same
    obtain ⟨stands, -, sound⟩ := (split ▸ sound).goTo moved
    refine ⟨stands ▸ sound, [.plain c], by rw [split, ← stands]; rfl, by simp,
      by simpa using own, fun _ twin rest _ there resembles => ?_⟩
    refine ⟨⟨twin.position + 1, rest⟩, ?_, rfl⟩
    have head' : twin.rest = .plain c :: rest := there
    show twin.accept c = _
    rw [Input.accept_of_head head', Input.goTo, if_neg resembles.ne_dangling]
    rfl
  · rw [Input.accept_of_other head]
    refine .ok ⟨sound, [], rfl, List.not_mem_nil, List.forall_mem_nil _,
      fun _ twin rest _ there resembles => ?_⟩
    have there : twin.rest = rest := there
    rw [← there] at resembles
    exact ⟨twin, Input.accept_of_other fun head' => head (resembles.head? head' busy), there⟩

theorem takeSome {test : Char → Bool} (own : ∀ c, test c = true → kind (.plain c) = true)
    (busy : ∀ c, test c = true → (Piece.plain c).isIdle = false) (count : Nat) :
    Local kind input (input.takeSome test count) fun _ twin => twin.takeSome test count := by
  induction count generalizing input with
  | zero => exact ok []
  | succ count ih =>
    intro sound
    -- Only the first character decides whether to go on, and the twin's text starts alike.
    by_cases starts : ∃ c behind, input.rest = .plain c :: behind ∧ test c = true
    · obtain ⟨c, behind, split, holds⟩ := starts
      rw [Input.takeSome_of_head split holds]
      intro result returned
      obtain ⟨middle, moved, later⟩ := bind_eq_ok_iff.mp returned
      obtain ⟨⟨taken, after⟩, others, same⟩ := bind_eq_ok_iff.mp later
      cases same
      obtain ⟨stands, -, sound⟩ := (split ▸ sound).goTo moved
      rw [← stands] at sound
      obtain ⟨sound'', chunk, split', closed, own', repeats⟩ := ih sound _ others
      refine ⟨sound'', .plain c :: chunk, by rw [split, ← stands, split']; rfl, by simp [closed],
        List.forall_mem_cons.mpr ⟨own c holds, own'⟩, fun fuel twin rest enough there resembles => ?_⟩
      rw [List.length_cons] at enough
      have onward : chunk ++ rest ≠ [.dangling] :=
        (show Resembles middle.rest (chunk ++ rest) from
          split' ▸ resembles.append closed).ne_dangling
      obtain ⟨left, computed, there'⟩ := repeats fuel ⟨twin.position + 1, chunk ++ rest⟩ rest
        (by omega) rfl resembles
      refine ⟨left, ?_, there'⟩
      have head : twin.rest = .plain c :: (chunk ++ rest) := there
      show twin.takeSome test (count + 1) = _
      rw [Input.takeSome_of_head head holds, Input.goTo, if_neg onward]
      show (Input.takeSome test count ⟨twin.position + 1, chunk ++ rest⟩ >>= _) = _
      rw [show Input.takeSome test count ⟨twin.position + 1, chunk ++ rest⟩ = _ from computed]
      rfl
    · have other (rest : List Piece) (resembles : Resembles input.rest rest) (c : Char)
          (head : rest.head? = some (.plain c)) : test c = false := by
        cases holds : test c with
        | false => rfl
        | true =>
          obtain ⟨behind, split⟩ :=
            List.head?_eq_some_iff.mp (resembles.head? head (busy c holds))
          exact absurd ⟨c, behind, split, holds⟩ starts
      have none : ∀ c, input.rest.head? = some (.plain c) → test c = false := by
        intro c head
        obtain ⟨behind, split⟩ := List.head?_eq_some_iff.mp head
        exact Bool.eq_false_iff.mpr fun holds => starts ⟨c, behind, split, holds⟩
      rw [Input.takeSome_of_other none]
      refine .ok ⟨sound, [], rfl, List.not_mem_nil, List.forall_mem_nil _,
        fun _ twin rest _ there resembles => ?_⟩
      have there : twin.rest = rest := there
      rw [← there] at resembles
      exact ⟨twin, Input.takeSome_of_other (other _ resembles) _, there⟩

theorem readUntil {terminator : Char} {what : String} {pieces : List Piece} (sound : Sound pieces)
    (taken : List Char) (position : Nat) :
    Ensures (Input.readUntil terminator what taken position pieces) fun (text, after) =>
      Sound after.rest ∧ ∃ chunk, pieces = chunk ++ after.rest ∧ .dangling ∉ chunk ∧
        ∀ position' rest, rest ≠ [.dangling] → ∃ left,
          Input.readUntil terminator what taken position' (chunk ++ rest) = .ok (text, left) ∧
            left.rest = rest := by
  -- Up to the terminator every piece is passed over, so that the chunk can stand in front of any
  -- text.
  induction pieces generalizing taken position with
  | nil =>
    unfold Input.readUntil
    split <;> exact .error
  | cons piece behind ih =>
    rintro ⟨text, after⟩ returned
    unfold Input.readUntil at returned
    obtain ⟨middle, moved, later⟩ := bind_eq_ok_iff.mp returned
    obtain ⟨same, closed, sound⟩ := sound.goTo moved
    by_cases last : piece = .plain terminator
    · rw [if_pos last] at later
      split at later
      · cases later
      · next some =>
        cases later
        refine ⟨same ▸ sound, [piece], by rw [same]; rfl, by simpa using closed.symm, ?_⟩
        intro position' rest more
        refine ⟨⟨position' + piece.length, rest⟩, ?_, rfl⟩
        show Input.readUntil terminator what taken position' (piece :: rest) = _
        rw [Input.readUntil, Input.goTo, if_neg more]
        show (if piece = .plain terminator then _ else _) = _
        rw [if_pos last, if_neg some]
    · rw [if_neg last] at later
      obtain ⟨sound, chunk, split, closed', repeats⟩ := ih sound _ _ _ later
      refine ⟨sound, piece :: chunk, by rw [split]; rfl, by simp [closed', closed.symm], ?_⟩
      intro position' rest more
      obtain ⟨left, computed, stands⟩ := repeats (position' + piece.length) rest more
      have onward : chunk ++ rest ≠ [.dangling] := by
        cases chunk with
        | nil => exact more
        | cons head chunk =>
          intro same
          exact closed' ((List.cons.inj same).1 ▸ List.mem_cons_self)
      refine ⟨left, ?_, stands⟩
      show Input.readUntil terminator what taken position' (piece :: (chunk ++ rest)) = _
      rw [Input.readUntil, Input.goTo, if_neg onward]
      show (if piece = .plain terminator then _ else _) = _
      rw [if_neg last, computed]

theorem takeUntil (terminator : Char) (what : String) :
    Local (fun _ => true) input (input.takeUntil terminator what)
      fun _ twin => twin.takeUntil terminator what := by
  intro sound
  refine (readUntil sound [] input.position).mono
    fun (text, after) ⟨sound, chunk, split, closed, repeats⟩ => ?_
  refine ⟨sound, chunk, split, closed, fun _ _ => rfl, fun _ twin rest _ stands resembles => ?_⟩
  obtain ⟨left, computed, there⟩ := repeats twin.position rest resembles.ne_dangling
  refine ⟨left, ?_, there⟩
  show Input.readUntil terminator what [] twin.position twin.rest = _
  rw [stands, computed]

theorem skipPast_closed {last : Char} {pieces : List Piece} (sound : Sound pieces)
    (position : Nat) : Ensures (Input.skipPast last position pieces) fun (_, after) =>
      Sound after.rest ∧ ∃ chunk, pieces = chunk ++ after.rest ∧ .dangling ∉ chunk := by
  induction pieces generalizing position with
  | nil => exact .ok ⟨.nil, [], rfl, nofun⟩
  | cons piece behind ih =>
    rintro ⟨found, after⟩ returned
    unfold Input.skipPast at returned
    obtain ⟨middle, moved, later⟩ := bind_eq_ok_iff.mp returned
    obtain ⟨same, closed, sound⟩ := sound.goTo moved
    split at later
    · cases later
      exact ⟨same ▸ sound, [piece], by rw [same]; rfl, by simpa using closed.symm⟩
    · obtain ⟨sound, chunk, split, closed'⟩ := ih sound _ _ later
      exact ⟨sound, piece :: chunk, by rw [split]; rfl, by simp [closed', closed.symm]⟩

theorem skipPast {last : Char} {next : Bool × Input → Except Rejection (α × Input)}
    {next' : Nat → Input → Bool × Input → Except Rejection (α × Input)}
    (missing : ∀ middle, Ensures (next (false, middle)) fun _ => False)
    (rest : ∀ middle twin, Local (fun _ => true) middle (next (true, middle))
      fun fuel x => next' fuel twin (true, x)) (position : Nat) :
    Local (fun _ => true) input (Input.skipPast last position input.rest >>= next)
      fun fuel twin => Input.skipPast last twin.position twin.rest >>= next' fuel twin := by
  rintro sound ⟨value, after⟩ returned
  obtain ⟨⟨found, middle⟩, skipped, later⟩ := bind_eq_ok_iff.mp returned
  cases found with
  | false => exact (missing _ _ later).elim
  | true =>
    obtain ⟨body, split, absent⟩ := Input.skipPast_reads _ _ _ _ skipped
    obtain ⟨sound, chunk, split', closed⟩ := skipPast_closed sound _ _ skipped
    have whole : chunk = body ++ [.plain last] := by
      have same : chunk ++ middle.rest = (body ++ [.plain last]) ++ middle.rest := by
        rw [← split', split]
        simp
      exact List.append_cancel_right same
    obtain ⟨sound', chunk', behind, closed', -, -⟩ := rest middle input sound _ later
    refine ⟨sound', chunk ++ chunk', by rw [split', behind, List.append_assoc],
      fun member => (List.mem_append.mp member).elim closed closed', fun _ _ => rfl, ?_⟩
    intro fuel twin back enough stands resembles
    rw [List.length_append] at enough
    have onward : Resembles middle.rest (chunk' ++ back) := behind ▸ resembles.append closed'
    obtain ⟨place, again⟩ := Input.skipPast_body absent onward.ne_dangling twin.position
    have text : twin.rest = body ++ .plain last :: (chunk' ++ back) := by
      rw [stands, whole]
      simp
    obtain ⟨-, other, behind', -, -, repeats⟩ := rest middle twin sound _ later
    cases List.append_cancel_right (behind.symm.trans behind')
    obtain ⟨left, computed, there⟩ :=
      repeats fuel ⟨place, chunk' ++ back⟩ back (by omega) rfl resembles
    refine ⟨left, ?_, there⟩
    show Input.skipPast last twin.position twin.rest >>= next' fuel twin = _
    rw [text, again]
    exact computed

end Local

end RuleLexer
