import RuleLexer.Proofs.Regex.Lockstep

namespace RuleLexer

/-- The comparison of parsers whose texts are aligned, where verbose mode is off. The numbers in the
texts are shifted by the groups before, and a parser that may not fail meets no numbers that are out
of range. -/
structure Comparison.Aligns (c : Comparison) (numbers : Renumbering) : Prop where
  fair : c.Fair
  text : ∀ x y, c.text x y ↔ ∃ marks, Aligned numbers marks false x.rest y.rest
  exact : ∀ kinds, c.exact kinds
  tight : ∀ group, ¬c.loose group
  modes : ∀ verbose, c.modes verbose ↔ verbose = false
  ends : numbers.Ends
  reference : ∀ n n', numbers.reference n n' → n' = n + c.offset
  condition : ∀ name name', numbers.condition name name' →
    Number.valueOf name' = Number.valueOf name + c.offset ∧
      (c.excused ∨ Parser.InRange name')

namespace Parser

namespace Shadows

variable {c : Comparison} {numbers : Renumbering} {p q : Parser}

theorem lexeme_of_mirrored {before after : List Landmark} (aligns : c.Aligns numbers)
    {lexeme lexeme' : Lexeme} (mirrored : Lexeme.Mirrored numbers before after lexeme lexeme') :
    lexeme.Shadows c p lexeme' := by
  have plain {opening : Opening} (unconditional : ∀ name, opening ≠ .condition name)
      (unscoped : ∀ on off, opening ≠ .scoped on off) :
      (Lexeme.opening opening).Shadows c p (.opening opening) :=
    .opening unconditional fun on off same => absurd same (unscoped on off)
  cases mirrored with
  | blank => exact .blank
  | item leaf => exact .item leaf
  | quantifier => exact .quantifier
  | reference related =>
    cases aligns.reference _ _ related
    exact .reference fun _ => aligns.tight _
  | namedReference => exact .namedReference fun group _ _ => aligns.tight group
  | group => exact plain nofun nofun
  | scoping verbose =>
    refine .opening nofun ?_
    rintro _ _ ⟨⟩ mode off
    rw [aligns.modes] at off ⊢
    rw [off, verbose]
    rfl
  | atomic => exact plain nofun nofun
  | ahead => exact plain nofun nofun
  | behind => exact plain nofun nofun
  | condition digits digits' some some' related =>
    obtain ⟨value, range⟩ := aligns.condition _ _ related
    exact .condition digits digits' some some' value range
  | namedCondition identifier => exact .namedCondition identifier

theorem reads_mirrored (aligns : c.Aligns numbers) (shadows : Shadows c p q) {alphabet : Alphabet}
    {lexeme : Lexeme} {after : Input} (reads : p.Reads alphabet lexeme after) :
    ∃ lexeme' after', q.Reads alphabet lexeme' after' ∧ c.text after after' ∧
      lexeme.Shadows c { p with input := after } lexeme' := by
  obtain ⟨piece, rest, input, head, closing, bar, moved, read⟩ := reads
  obtain ⟨marks, texts⟩ := (aligns.text _ _).mp shadows.text
  rw [head] at texts
  obtain ⟨piece', rest', head', dangling, same, mirrors⟩ :=
    Lexeme.read_mirrors aligns.ends alphabet texts
  have closing' : piece' ≠ .plain ')' := fun other => closing ((same ')' rfl rfl).mp other)
  have bar' : piece' ≠ .plain '|' := fun other => bar ((same '|' rfl rfl).mp other)
  have here : input.rest = rest := Input.goTo_rest _ _ input moved
  have quiet := (aligns.modes _).mp shadows.stack.top.mode
  rw [quiet] at read
  let input' : Input := ⟨q.input.position + piece'.length, rest'⟩
  rcases mirrors p.input.position q.input.position input input' here rfl _ read with
    ⟨⟨⟩, _⟩ | ⟨⟨lexeme', after'⟩, read', onward, mirrored, texts⟩
  refine ⟨lexeme', after', ⟨piece', rest', input', head', closing', bar', if_neg dangling, ?_⟩,
    (aligns.text _ _).mpr ⟨_, texts⟩, lexeme_of_mirrored aligns mirrored⟩
  rw [shadows.stack.top.verbose, quiet]
  exact read'

theorem step (aligns : c.Aligns numbers) (shadows : Shadows c p q) {alphabet : Alphabet}
    {next : Parser} (taken : p.step alphabet = .ok (some next)) :
    (c.excused ∧ ∃ failure, q.step alphabet = .error failure) ∨
      ∃ next', q.step alphabet = .ok (some next') ∧ Shadows c next next' := by
  refine shadows.advance aligns.fair taken (fun d rest head mark => ?_) fun lexeme after reads =>
    shadows.reads_mirrored aligns reads
  obtain ⟨marks, texts⟩ := (aligns.text _ _).mp shadows.text
  rw [head] at texts
  have ordinary : isBracket d = false := by rcases mark with rfl | rfl <;> decide
  obtain ⟨parenthesis, bracket, last⟩ := not_isBracket ordinary
  obtain ⟨rest', head', onward⟩ := texts.uncons parenthesis bracket last
  refine ⟨rest', head', onward.ne_dangling aligns.ends, fun x y here there => ?_⟩
  exact (aligns.text x y).mpr ⟨marks, here ▸ there ▸ onward⟩

/-- Where the first parser stops, the second one has read the same, unless it fails before and that
is excused. -/
theorem parse (aligns : c.Aligns numbers) (shadows : Shadows c p q) (alphabet : Alphabet)
    {stopped : Parser} (parsed : p.parse alphabet = .ok stopped) :
    (c.excused ∧ ∃ failure, q.parse alphabet = .error failure) ∨
      ∃ reached, q.parse alphabet = reached.parse alphabet ∧ Shadows c stopped reached := by
  have steps (p next q : Parser) (_ : True) (shadows : Shadows c p q)
      (taken : p.step alphabet = .ok (some next)) (_ : next.parse alphabet = .ok stopped) :
      True ∧ ((c.excused ∧ ∃ failure, q.parse alphabet = .error failure) ∨ True ∧
        ∃ next', q.parse alphabet = next'.parse alphabet ∧ Shadows c next next') := by
    refine ⟨.intro, (shadows.step aligns taken).imp ?_ ?_⟩
    · rintro ⟨excuse, failure, failed⟩
      exact ⟨excuse, failure, by rw [Parser.parse_eq, failed]; rfl⟩
    · rintro ⟨next', taken', shadows⟩
      exact ⟨.intro, next', by rw [Parser.parse_eq, taken']; rfl, shadows⟩
  rcases along steps .intro shadows parsed with ⟨⟨_, -, excuse⟩, failed⟩ | ⟨-, -, reached⟩
  · exact .inl ⟨excuse, failed⟩
  · exact .inr reached

end Shadows

end Parser

end RuleLexer
