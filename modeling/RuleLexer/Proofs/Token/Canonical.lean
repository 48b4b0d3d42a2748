import RuleLexer.Proofs.Json.Canonical
import RuleLexer.Proofs.Token.RoundTrip

namespace RuleLexer

namespace Token

theorem Reordered.toDict {token other : Token} (same : token.Reordered other) :
    token.toRecord.toDict.Reordered other.toRecord.toDict := by
  obtain ⟨name, position, content⟩ := same
  refine .dict ?_ ?_ (.refl _)
  · rfl
  simp only [Token.toRecord, List.zip_cons_cons, List.zip_nil_left, List.forall_mem_cons, name,
    position]
  exact ⟨.same _, .same _, content, .same _, nofun⟩

theorem reordered_of_sorted_eq {token other : Token} (plain : token.Plain)
    (plainOther : other.Plain)
    (same : token.toRecord.toDict.sorted = other.toRecord.toDict.sorted) :
    token.Reordered other := by
  have read := Record.ofDict_sorted_toDict token
  rw [same, Record.ofDict_sorted_toDict other] at read
  simp only [Except.ok.injEq, Token.toRecord, Token.sorted, Record.mk.injEq, Value.text.injEq,
    Value.int.injEq] at read
  obtain ⟨name, content, line, column⟩ := read
  exact {
    name := name.symm
    position := by rw [show token.position = ⟨_, _⟩ from rfl, ← line, ← column]
    content := plain.content.reordered_of_sorted_eq plainOther.content content.symm }

theorem plain_items {tokens : List Token} (plain : ∀ token ∈ tokens, token.Plain) :
    Value.Plain (.list ((tokens.map Token.toRecord).map Record.toDict)) := by
  apply Value.Plain.list
  simp only [List.map_map, List.forall_mem_map]
  intro token member
  exact (plain token member).toDict

/-- Two lists of tokens with plain contents have the same JSON text, for every indent, exactly if
they agree token by token but for the order of keys in their contents. -/
theorem toJson_eq_iff (indent : Option Int) (tokens others : List Token)
    (plain : ∀ token ∈ tokens, token.Plain) (plainOthers : ∀ token ∈ others, token.Plain) :
    (∃ document, Record.toJson? indent (tokens.map Token.toRecord) = some document ∧
        Record.toJson? indent (others.map Token.toRecord) = some document) ↔
      List.Forall₂ Token.Reordered tokens others := by
  obtain ⟨document, written, read⟩ := Json.parse_print (plain_items plain) indent
  obtain ⟨another, writtenOther, readOther⟩ := Json.parse_print (plain_items plainOthers) indent
  constructor
  · rintro ⟨text, here, there⟩
    -- Both texts are read back as the sorted forms of what was written.
    obtain rfl := Option.some.inj (written.symm.trans here)
    obtain rfl := Option.some.inj (writtenOther.symm.trans there)
    have same := Except.ok.inj (read.symm.trans readOther)
    simp only [Value.sorted, Value.sortedItems_eq_map, List.map_map, Value.list.injEq] at same
    obtain ⟨length, each⟩ := map_eq_map_iff_zip.mp same
    refine List.forall₂_iff_zip.mpr ⟨length, fun {token other} member => ?_⟩
    obtain ⟨inside, within⟩ := List.of_mem_zip member
    exact reordered_of_sorted_eq (plain _ inside) (plainOthers _ within) (each _ member)
  · intro same
    obtain ⟨length, each⟩ := List.forall₂_iff_zip.mp same
    have reordered : Value.Reordered (.list ((tokens.map Token.toRecord).map Record.toDict))
        (.list ((others.map Token.toRecord).map Record.toDict)) := by
      refine .list (by simp only [List.length_map, length]) ?_
      simp only [List.map_map, List.zip_map, List.forall_mem_map]
      exact fun pair member => (each member).toDict
    have equal := Json.render_eq_of_reordered reordered (plain_items plain) indent 0
    exact ⟨document, written, equal.symm.trans written⟩

end Token

def turnedToken : Token :=
  { nestedToken with
    content := .dict
      [("_type", .text "\"\u0007😀\\"), ("position", .list [.int (-7), .null, .dict []])] }

theorem turnedToken_reordered : nestedToken.Reordered turnedToken := by
  refine ⟨rfl, rfl, .dict rfl ?_ (.swap _ _ _)⟩
  simp only [List.zip_cons_cons, List.zip_nil_left, List.forall_mem_cons]
  exact ⟨.same _, .same _, nofun⟩

theorem turnedToken_plain : turnedToken.Plain := by
  obtain ⟨content, line, column⟩ := nestedToken_plain
  cases content with
  | dict keys plain =>
    simp only [List.forall_mem_cons] at plain
    refine ⟨.dict (by decide) ?_, line, column⟩
    simp only [List.forall_mem_cons]
    exact ⟨plain.2.1, plain.1, nofun⟩

theorem toJson_eq_turnedToken :
    nestedToken.Plain ∧ turnedToken.Plain ∧ nestedToken.content ≠ turnedToken.content ∧
      ∃ document, Record.toJson? (some 2) [nestedToken.toRecord] = some document ∧
        Record.toJson? (some 2) [turnedToken.toRecord] = some document := by
  refine ⟨nestedToken_plain, turnedToken_plain, ?_, ?_⟩
  · intro same
    simp [nestedToken, turnedToken] at same
  · refine (Token.toJson_eq_iff (some 2) [nestedToken] [turnedToken] ?_ ?_).mpr
      (.cons turnedToken_reordered .nil)
    · simpa only [List.forall_mem_singleton] using nestedToken_plain
    · simpa only [List.forall_mem_singleton] using turnedToken_plain

end RuleLexer
