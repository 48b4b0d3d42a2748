import Mathlib
import RuleLexer.Token.Serial

namespace RuleLexer

def SerialError.IsChecked : SerialError → Prop
  | .unreadable _ | .notList _ | .missingType | .unknownType _ => True
  | .notDict | .missingField _ | .noFields => False

namespace Record

/-- The value is a serialised token with these fields. -/
inductive Serialized : Value → Record → Prop
  | intro {entries place : List (String × Value)} {record : Record}
    (type : Value.lookup entries "_type" = some (.text "Token"))
    (name : Value.lookup entries "name" = some record.name)
    (content : Value.lookup entries "content" = some record.content)
    (position : Value.lookup entries "position" = some (.dict place))
    (line : Value.lookup place "line" = some record.line)
    (column : Value.lookup place "column" = some record.column) :
    Serialized (.dict entries) record

inductive Untyped : Value → Prop
  | intro {entries : List (String × Value)}
    (type : Value.lookup entries "_type" ≠ some (.text "Token")) : Untyped (.dict entries)

/-- What an item lacks that is no serialised token, although no check of its type says so. -/
inductive Lacks : Value → SerialError → Prop
  | fields {value : Value} (other : ∀ entries, value ≠ .dict entries) : Lacks value .notDict
  | field {entries : List (String × Value)} {key : String}
    (type : Value.lookup entries "_type" = some (.text "Token"))
    (own : key = "position" ∨ key = "name" ∨ key = "content")
    (missing : Value.lookup entries key = none) : Lacks (.dict entries) (.missingField key)
  | place {entries : List (String × Value)} {value : Value}
    (type : Value.lookup entries "_type" = some (.text "Token"))
    (position : Value.lookup entries "position" = some value)
    (other : ∀ place, value ≠ .dict place) : Lacks (.dict entries) .noFields
  | placeField {entries place : List (String × Value)} {key : String}
    (type : Value.lookup entries "_type" = some (.text "Token"))
    (position : Value.lookup entries "position" = some (.dict place))
    (own : key = "line" ∨ key = "column")
    (missing : Value.lookup place key = none) : Lacks (.dict entries) (.missingField key)

variable {entries : List (String × Value)} {item : Value} {items : List Value}

theorem Serialized.ofDict {record : Record} (serialized : Serialized item record) :
    ofDict item = .ok record := by
  cases serialized with
  | intro type name content position line column =>
    simp only [Record.ofDict, type, Option.getD_some, field, position, name, content, fieldOf, line,
      column, Bind.bind, Except.bind]
    rfl

/-- What reading an item can come to. -/
inductive Outcome (item : Value) : Except SerialError Record → Prop
  | read {record : Record} (serialized : Serialized item record) : Outcome item (.ok record)
  | refused {error : SerialError} (checked : error.IsChecked) (untyped : Untyped item) :
    Outcome item (.error error)
  | stopped {error : SerialError} (unchecked : ¬error.IsChecked) (lacks : Lacks item error) :
    Outcome item (.error error)

theorem outcome_of_typed (type : Value.lookup entries "_type" = some (.text "Token")) :
    Outcome (.dict entries) (ofDict (.dict entries)) := by
  simp only [ofDict, type, Option.getD_some, field]
  cases position : Value.lookup entries "position" with
  | none => exact .stopped id (.field type (.inl rfl) position)
  | some value =>
    cases name : Value.lookup entries "name" with
    | none => exact .stopped id (.field type (.inr (.inl rfl)) name)
    | some name' =>
      cases content : Value.lookup entries "content" with
      | none => exact .stopped id (.field type (.inr (.inr rfl)) content)
      | some content' =>
        cases value with
        | dict place =>
          simp only [fieldOf, field, Bind.bind, Except.bind]
          cases line : Value.lookup place "line" with
          | none => exact .stopped id (.placeField type position (.inl rfl) line)
          | some line' =>
            cases column : Value.lookup place "column" with
            | none => exact .stopped id (.placeField type position (.inr rfl) column)
            | some column' =>
              have serialized : Serialized (.dict entries) ⟨name', content', line', column'⟩ :=
                .intro type name content position line column
              exact .read serialized
        | _ => exact .stopped id (.place type position nofun)

theorem outcome_ofDict (item : Value) : Outcome item (ofDict item) := by
  cases item with
  | dict entries =>
    by_cases typed : Value.lookup entries "_type" = some (.text "Token")
    · exact outcome_of_typed typed
    · rw [ofDict]
      split
      · exact .refused trivial ⟨typed⟩
      · next type =>
        cases found : Value.lookup entries "_type" with
        | none => rw [found] at type; cases type
        | some value => rw [found] at type typed; exact absurd (congrArg some type) typed
      · exact .refused trivial ⟨typed⟩
  | _ => exact .stopped id (.fields nofun)

theorem ofDicts_cases (items : List Value) :
    (∃ records, ofDicts items = .ok records ∧ List.Forall₂ Serialized items records) ∨
      ∃ front item back error, items = front ++ item :: back ∧
        (∀ other ∈ front, ∃ record, Serialized other record) ∧
        ofDicts items = .error error ∧ ofDict item = .error error := by
  induction items with
  | nil => exact .inl ⟨[], rfl, .nil⟩
  | cons item items ih =>
    have outcome := outcome_ofDict item
    rw [ofDicts]
    cases read : ofDict item with
    | error error => exact .inr ⟨[], item, items, error, rfl, nofun, rfl, read⟩
    | ok record =>
      rw [read] at outcome
      cases outcome with
      | read serialized =>
        rcases ih with ⟨records, all, each⟩ | ⟨front, other, back, error, rfl, before, failed, at'⟩
        · exact .inl ⟨record :: records, by rw [all]; rfl, .cons serialized each⟩
        · refine .inr ⟨item :: front, other, back, error, rfl, ?_, by rw [failed]; rfl, at'⟩
          exact List.forall_mem_cons.mpr ⟨⟨record, serialized⟩, before⟩

theorem ofDicts_of_serialized {records : List Record}
    (serialized : List.Forall₂ Serialized items records) : ofDicts items = .ok records := by
  induction serialized with
  | nil => rfl
  | cons first _ ih => rw [ofDicts, first.ofDict, ih]; rfl

theorem ofDicts_of_error {front back : List Value} {error : SerialError}
    (before : ∀ other ∈ front, ∃ record, Serialized other record)
    (failed : ofDict item = .error error) :
    ofDicts (front ++ item :: back) = .error error := by
  induction front with
  | nil => rw [List.nil_append, ofDicts, failed]; rfl
  | cons other front ih =>
    obtain ⟨⟨record, serialized⟩, before⟩ := List.forall_mem_cons.mp before
    rw [List.cons_append, ofDicts, serialized.ofDict, ih before]
    rfl

theorem ofJson_of_list {document : List Char} (parsed : Json.parse document = .ok (.list items)) :
    ofJson document = ofDicts items := by
  rw [ofJson, parsed]

theorem ofJson_of_other {document : List Char}
    (parsed : ∀ items, Json.parse document ≠ .ok (.list items)) :
    ∃ error, ofJson document = .error error ∧ error.IsChecked := by
  unfold ofJson
  split
  · exact ⟨_, rfl, trivial⟩
  · next items same => exact absurd same (parsed items)
  · exact ⟨_, rfl, trivial⟩

/-- The reading gives all the items, or it ends before the first one, or an item stops it. -/
theorem ofJson_cases (document : List Char) :
    (∃ items records, Json.parse document = .ok (.list items) ∧ ofJson document = .ok records ∧
      List.Forall₂ Serialized items records) ∨
    (∃ error, (∀ items, Json.parse document ≠ .ok (.list items)) ∧
      ofJson document = .error error ∧ error.IsChecked) ∨
    ∃ front item back error, Json.parse document = .ok (.list (front ++ item :: back)) ∧
      (∀ other ∈ front, ∃ record, Serialized other record) ∧ ofJson document = .error error ∧
      ofDict item = .error error := by
  by_cases list : ∃ items, Json.parse document = .ok (.list items)
  · obtain ⟨items, parsed⟩ := list
    rcases ofDicts_cases items with ⟨records, all, each⟩ | ⟨front, item, back, error, rfl, before,
      failed, at'⟩
    · exact .inl ⟨items, records, parsed, (ofJson_of_list parsed).trans all, each⟩
    · exact .inr (.inr ⟨front, item, back, error, parsed, before,
        (ofJson_of_list parsed).trans failed, at'⟩)
  · have other : ∀ items, Json.parse document ≠ .ok (.list items) := fun items parsed =>
      list ⟨items, parsed⟩
    obtain ⟨error, failed, checked⟩ := ofJson_of_other other
    exact .inr (.inl ⟨error, other, failed, checked⟩)

theorem Untyped.checked {error : SerialError} (untyped : Untyped item)
    (failed : ofDict item = .error error) : error.IsChecked := by
  have outcome := outcome_ofDict item
  rw [failed] at outcome
  cases outcome with
  | refused checked => exact checked
  | stopped _ lacks =>
    cases untyped with
    | intro other =>
      cases lacks with
      | fields none => exact absurd rfl (none _)
      | field type | place type | placeField type => exact absurd type other

theorem lacks_of_unchecked {error : SerialError} (failed : ofDict item = .error error)
    (unchecked : ¬error.IsChecked) : Lacks item error := by
  have outcome := outcome_ofDict item
  rw [failed] at outcome
  cases outcome with
  | refused checked => exact absurd checked unchecked
  | stopped _ lacks => exact lacks

theorem ofDict_trichotomy (item : Value) : (∃ record, Serialized item record) ∨ Untyped item ∨
    ∃ error, ofDict item = .error error ∧ ¬error.IsChecked := by
  have outcome := outcome_ofDict item
  cases read : ofDict item with
  | ok record =>
    rw [read] at outcome
    cases outcome with
    | read serialized => exact .inl ⟨record, serialized⟩
  | error error =>
    rw [read] at outcome
    cases outcome with
    | refused _ untyped => exact .inr (.inl untyped)
    | stopped unchecked _ => exact .inr (.inr ⟨error, rfl, unchecked⟩)

/-- All that can come of reading a document. It gives records exactly if it holds a list of
serialised tokens, and then theirs. Any other error than those for a document that is no list of
tokens is about the first item that is no serialised token, and about something that this item
lacks. So the document is read or refused by one of the errors for such documents exactly if that
item, if there is one, is a dictionary that does not say that it is a token. -/
theorem ofJson_outcomes (document : List Char) :
    (∀ records, ofJson document = .ok records ↔
      ∃ items, Json.parse document = .ok (.list items) ∧
        List.Forall₂ Serialized items records) ∧
    (∀ error, ofJson document = .error error → ¬error.IsChecked →
      ∃ front item back, Json.parse document = .ok (.list (front ++ item :: back)) ∧
        (∀ other ∈ front, ∃ record, Serialized other record) ∧ Lacks item error) ∧
    ((∀ error, ofJson document = .error error → error.IsChecked) ↔
      ∀ front item back, Json.parse document = .ok (.list (front ++ item :: back)) →
        (∀ other ∈ front, ∃ record, Serialized other record) →
        (∃ record, Serialized item record) ∨ Untyped item) := by
  -- The reading has one of three ends, and each part of the statement excludes two of them.
  refine ⟨fun records => ⟨fun read => ?_, ?_⟩, fun error failed unchecked => ?_,
    fun checked front item back parsed before => ?_, fun typed error failed => ?_⟩
  · rcases ofJson_cases document with ⟨items, others, parsed, all, each⟩ | ⟨_, -, failed, -⟩ |
      ⟨_, _, _, _, -, -, failed, -⟩
    · cases read.symm.trans all
      exact ⟨items, parsed, each⟩
    · cases read.symm.trans failed
    · cases read.symm.trans failed
  · rintro ⟨items, parsed, each⟩
    rw [ofJson_of_list parsed]
    exact ofDicts_of_serialized each
  · rcases ofJson_cases document with ⟨_, _, -, all, -⟩ | ⟨_, -, failed', checked⟩ |
      ⟨front, item, back, _, parsed, before, failed', at'⟩
    · cases failed.symm.trans all
    · cases failed.symm.trans failed'
      exact absurd checked unchecked
    · cases failed.symm.trans failed'
      exact ⟨front, item, back, parsed, before, lacks_of_unchecked at' unchecked⟩
  · rcases ofDict_trichotomy item with serialized | untyped | ⟨error, failed, unchecked⟩
    · exact .inl serialized
    · exact .inr untyped
    · refine absurd (checked error ?_) unchecked
      rw [ofJson_of_list parsed]
      exact ofDicts_of_error before failed
  · rcases ofJson_cases document with ⟨_, _, -, all, -⟩ | ⟨_, -, failed', checked⟩ |
      ⟨front, item, back, _, parsed, before, failed', at'⟩
    · cases failed.symm.trans all
    · cases failed.symm.trans failed'
      exact checked
    · cases failed.symm.trans failed'
      rcases typed front item back parsed before with ⟨record, serialized⟩ | untyped
      · cases at'.symm.trans serialized.ofDict
      · exact untyped.checked at'

/-- A number in the list has no fields at all; a token may lack a field, or have a position
without fields. -/
theorem ofJson_unchecked :
    ofJson "[1]".toList = .error .notDict ∧
      ofJson "[\x7b\"_type\": \"Token\"\x7d]".toList = .error (.missingField "position") ∧
      ofJson "[\x7b\"_type\": \"Token\", \"position\": 1, \"name\": 2, \"content\": 3\x7d]".toList =
        .error .noFields ∧
      ¬SerialError.notDict.IsChecked ∧ ¬(SerialError.missingField "position").IsChecked ∧
      ¬SerialError.noFields.IsChecked :=
  ⟨by cbv, by cbv, by cbv, id, id, id⟩

end Record

end RuleLexer
