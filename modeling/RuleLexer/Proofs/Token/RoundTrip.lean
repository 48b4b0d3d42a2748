import RuleLexer.Proofs.Json.RoundTrip
import RuleLexer.Token.Serial

namespace RuleLexer

namespace Token

structure Plain (token : Token) : Prop where
  content : token.content.Plain
  line : token.position.line.natAbs < 10 ^ Number.digitLimit
  column : token.position.column.natAbs < 10 ^ Number.digitLimit

/-- The same token but for the order of keys in its content. -/
structure Reordered (token other : Token) : Prop where
  name : token.name = other.name
  position : token.position = other.position
  content : token.content.Reordered other.content

def sorted (token : Token) : Token :=
  { token with content := token.content.sorted }

theorem Plain.reordered_sorted {token : Token} (plain : token.Plain) :
    token.Reordered token.sorted :=
  ⟨rfl, rfl, plain.content.reordered_sorted⟩

theorem Plain.toDict {token : Token} (plain : token.Plain) : token.toRecord.toDict.Plain := by
  apply Value.Plain.dict (by simp)
  have position : Value.Plain (.dict [("_type", .text "Position"),
      ("line", .int token.position.line), ("column", .int token.position.column)]) := by
    apply Value.Plain.dict (by simp)
    simp only [List.forall_mem_cons]
    exact ⟨.text _, .int plain.line, .int plain.column, by simp⟩
  simp only [List.forall_mem_cons]
  exact ⟨.text _, .text _, plain.content, position, by simp⟩

end Token

namespace Record

theorem field_sorted {entries : List (String × Value)} (keys : (entries.map Prod.fst).Nodup)
    {key : String} {value : Value} (member : (key, value) ∈ entries) :
    field (Json.sortByKey (Value.sortedEntries entries)) key = .ok value.sorted := by
  rw [field, Value.lookup_sorted keys member]

theorem ofDict_sorted_toDict (token : Token) :
    ofDict token.toRecord.toDict.sorted = .ok token.sorted.toRecord := by
  let place : List (String × Value) := [("_type", .text "Position"),
    ("line", .int token.position.line), ("column", .int token.position.column)]
  let entries : List (String × Value) := [("_type", .text "Token"), ("name", .text token.name),
    ("content", token.content), ("position", .dict place)]
  have placeKeys : (place.map Prod.fst).Nodup := by simp [place]
  have keys : (entries.map Prod.fst).Nodup := by simp [entries]
  have kind : Value.lookup (Json.sortByKey (Value.sortedEntries entries)) "_type" =
      some (.text "Token") :=
    Value.lookup_sorted keys (show ("_type", .text "Token") ∈ entries by simp [entries])
  have name := field_sorted keys (show ("name", .text token.name) ∈ entries by simp [entries])
  have content := field_sorted keys (show ("content", token.content) ∈ entries by simp [entries])
  have position := field_sorted keys (show ("position", .dict place) ∈ entries by simp [entries])
  have line := field_sorted placeKeys
    (show ("line", .int token.position.line) ∈ place by simp [place])
  have column := field_sorted placeKeys
    (show ("column", .int token.position.column) ∈ place by simp [place])
  change ofDict (.dict (Json.sortByKey (Value.sortedEntries entries))) = _
  simp only [ofDict, kind, Option.getD_some, position, name, content, Value.sorted, fieldOf,
    line, column, Bind.bind, Except.bind]
  rfl

theorem ofDicts_sorted_toDict (tokens : List Token) :
    ofDicts (Value.sortedItems (tokens.map fun token => token.toRecord.toDict)) =
      .ok (tokens.map fun token => token.sorted.toRecord) := by
  induction tokens with
  | nil => rfl
  | cons token tokens ih =>
    rw [List.map_cons, Value.sortedItems, ofDicts, ofDict_sorted_toDict, ih]
    rfl

end Record

/-- Tokens with plain contents come back from their JSON text, for every indent: all of them, in
order, and each the same but for the order of keys in its content. -/
theorem Token.ofJson_toJson (indent : Option Int) (tokens : List Token)
    (plain : ∀ token ∈ tokens, token.Plain) :
    ∃ document, Record.toJson? indent (tokens.map Token.toRecord) = some document ∧
      ∃ back : List Token, Record.ofJson document = .ok (back.map Token.toRecord) ∧
        List.Forall₂ Token.Reordered tokens back := by
  have items : Value.Plain (.list ((tokens.map Token.toRecord).map Record.toDict)) := by
    apply Value.Plain.list
    simp only [List.map_map, List.forall_mem_map]
    intro token member
    exact (plain token member).toDict
  obtain ⟨document, written, read⟩ := Json.parse_print items indent
  refine ⟨document, written, tokens.map Token.sorted, ?_, ?_⟩
  · rw [Record.ofJson, read, Value.sorted, List.map_map, List.map_map]
    exact Record.ofDicts_sorted_toDict tokens
  · rw [List.forall₂_map_right_iff, List.forall₂_same]
    intro token member
    exact (plain token member).reordered_sorted

def nestedToken : Token :=
  ⟨"NOTE", .dict [("position", .list [.int (-7), .null, .dict []]), ("_type", .text "\"\u0007😀\\")],
    ⟨3, 1⟩⟩

theorem nestedToken_plain : nestedToken.Plain := by
  have short {value : Int} (small : value.natAbs < 10) : value.natAbs < 10 ^ Number.digitLimit :=
    Nat.lt_of_lt_of_le small (Nat.le_self_pow (by decide) 10)
  refine ⟨.dict (by decide) ?_, short (by decide), short (by decide)⟩
  have items : Value.Plain (.list [.int (-7), .null, .dict []]) := by
    apply Value.Plain.list
    simp only [List.forall_mem_cons]
    exact ⟨.int (short (by decide)), .null, .dict (by simp) (by simp), by simp⟩
  simp only [List.forall_mem_cons]
  exact ⟨items, .text _, by simp⟩

theorem ofJson_toJson_nestedToken :
    nestedToken.Plain ∧
      ∃ document, Record.toJson? (some 2) [nestedToken.toRecord] = some document ∧
        ∃ back : List Token, Record.ofJson document = .ok (back.map Token.toRecord) ∧
          List.Forall₂ Token.Reordered [nestedToken] back :=
  ⟨nestedToken_plain, Token.ofJson_toJson (some 2) [nestedToken] (by
    intro token member
    rw [List.mem_singleton.mp member]
    exact nestedToken_plain)⟩

end RuleLexer
