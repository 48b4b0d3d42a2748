import RuleLexer.Proofs.Json.Scalar
import RuleLexer.Proofs.Value.Reordering

namespace RuleLexer.Json

theorem skipBlanks_append (blanks text : List Char) (blank : ∀ c ∈ blanks, isBlank c = true)
    (stop : ∀ c ∈ text.head?, isBlank c = false) (position : Nat) :
    Rest.skipBlanks ⟨position, blanks ++ text⟩ = ⟨position + blanks.length, text⟩ := by
  have taken : (blanks ++ text).takeWhile isBlank = blanks := by
    rw [List.takeWhile_append_of_pos blank]
    cases text with
    | nil => simp
    | cons c text =>
      have visible : ¬ isBlank c = true := by simp [stop c rfl]
      rw [List.takeWhile_cons_of_neg visible, List.append_nil]
  simp [Rest.skipBlanks, Rest.drop, taken]

theorem skipBlanks_comma (position : Nat) (text : List Char) :
    Rest.skipBlanks ⟨position, ',' :: text⟩ = ⟨position, ',' :: text⟩ :=
  skipBlanks_append [] (',' :: text) (by simp) (by simp [isBlank]) position

theorem blank_lineBreak (indent : Option Int) (level : Nat) :
    ∀ c ∈ lineBreak indent level, isBlank c = true := by
  cases indent with
  | none => simp [lineBreak]
  | some width =>
    intro c member
    rcases List.mem_cons.mp member with rfl | member
    · rfl
    · rw [List.eq_of_mem_replicate member]
      rfl

theorem separator_eq (indent : Option Int) (level : Nat) :
    ∃ blanks, separator indent level = ',' :: blanks ∧ ∀ c ∈ blanks, isBlank c = true := by
  cases indent with
  | none => exact ⟨[' '], rfl, by simp [isBlank]⟩
  | some width => exact ⟨_, rfl, blank_lineBreak (some width) level⟩

theorem stops_comma (rest : List Char) : Stops (',' :: rest) := by
  simp [Stops]

theorem stops_closing {closing : Char} (bracket : closing = ']' ∨ closing = '\x7d')
    {blanks : List Char} (blank : ∀ c ∈ blanks, isBlank c = true) (rest : List Char) :
    Stops (blanks ++ closing :: rest) := by
  intro c head
  cases blanks with
  | nil =>
    cases head
    rcases bracket with rfl | rfl <;> simp
  | cons first blanks =>
    cases head
    exact .inl (blank c List.mem_cons_self)

def Opens (c : Char) : Prop :=
  isBlank c = false ∧ c ≠ ']' ∧ c ≠ '\uFEFF'

/-- The text starts like a value, and reading it gives this value. -/
structure ReadsBack (text : List Char) (value : Value) : Prop where
  starts : ∃ c tail, text = c :: tail ∧ Opens c
  reads : ∀ fuel position rest, 2 * text.length ≤ fuel → Stops rest →
    Yields (readValue fuel ⟨position, text ++ rest⟩) value rest

theorem ReadsBack.visible {text : List Char} {value : Value} (back : ReadsBack text value)
    (rest : List Char) : ∀ c ∈ (text ++ rest).head?, isBlank c = false := by
  obtain ⟨c, tail, rfl, opens⟩ := back.starts
  intro first head
  cases head
  exact opens.1

theorem ReadsBack.of_scalar {value : Value} {c : Char} {tail : List Char} (opens : Opens c)
    (simple : c ≠ '"' ∧ c ≠ '[' ∧ c ≠ '\x7b')
    (read : ∀ position rest, Stops rest →
      Yields (readScalar ⟨position, c :: tail ++ rest⟩) value rest) :
    ReadsBack (c :: tail) value := by
  refine ⟨⟨c, tail, rfl, opens⟩, ?_⟩
  intro fuel position rest enough stops
  rw [List.length_cons] at enough
  obtain ⟨fuel, rfl⟩ : ∃ n, fuel = n + 1 := ⟨fuel - 1, by omega⟩
  have scalar := read position rest stops
  rw [readValue]
  split
  · next same => exact absurd (List.cons.inj same).1 simple.1
  · next same => exact absurd (List.cons.inj same).1 simple.2.1
  · next same => exact absurd (List.cons.inj same).1 simple.2.2
  · exact scalar

theorem readsBack_constant (name : String) (value : Value) (listed : (name, value) ∈ constants) :
    ReadsBack name.toList value := by
  simp only [constants, List.mem_cons, Prod.mk.injEq, List.not_mem_nil, or_false] at listed
  rcases listed with ⟨rfl, rfl⟩ | ⟨rfl, rfl⟩ | ⟨rfl, rfl⟩ | ⟨rfl, rfl⟩ | ⟨rfl, rfl⟩ | ⟨rfl, rfl⟩
  all_goals
    apply ReadsBack.of_scalar ⟨by decide, by decide, by decide⟩ ⟨by decide, by decide, by decide⟩
    intro position rest _
    exact ⟨_, rfl⟩

theorem readsBack_int {value : Int} (short : value.natAbs < 10 ^ Number.digitLimit) :
    ReadsBack (Number.intText value) (.int value) := by
  cases written : Number.intText value with
  | nil => cases value <;> simp [Number.intText] at written
  | cons c tail =>
    have first : c = '-' ∨ c.isDigit = true := by
      cases value with
      | ofNat n =>
        have member : c ∈ Nat.toDigits 10 n := by
          rw [show Nat.toDigits 10 n = c :: tail from written]
          exact List.mem_cons_self
        exact .inr (List.all_eq_true.mp (Number.all_isDigit_toDigits n) c member)
      | negSucc n => exact .inl (List.cons.inj written).1.symm
    have simple : (isBlank c = false ∧ c ≠ ']' ∧ c ≠ '\uFEFF') ∧ c ≠ '"' ∧ c ≠ '[' ∧ c ≠ '\x7b' := by
      rcases first with rfl | digit
      · decide
      · have each := Number.of_isDigit (p := fun c => decide ((isBlank c = false ∧ c ≠ ']' ∧
          c ≠ '\uFEFF') ∧ c ≠ '"' ∧ c ≠ '[' ∧ c ≠ '\x7b')) (by decide) digit
        exact of_decide_eq_true each
    apply ReadsBack.of_scalar simple.1 simple.2
    intro position rest stops
    rw [← written]
    exact readScalar_intText short stops position

theorem readsBack_string (text : String) : ReadsBack (string text.toList) (.text text) := by
  refine ⟨⟨'"', _, rfl, by decide, by decide, by decide⟩, ?_⟩
  intro fuel position rest enough stops
  obtain ⟨fuel, rfl⟩ : ∃ n, fuel = n + 1 := ⟨fuel - 1, by simp [string] at enough; omega⟩
  have opened : readValue (fuel + 1) ⟨position, string text.toList ++ rest⟩ = (do
      let read ← readQuoted ⟨position, string text.toList ++ rest⟩
      return (.text read.1, read.2)) := by
    simp only [string, List.cons_append]
    rw [readValue]
    rfl
  rw [opened]
  apply (readQuoted_string text position rest).bind
  intro after
  exact ⟨after, rfl⟩

theorem join_cons (between text : List Char) (texts : List (List Char)) :
    ∃ more, join between (text :: texts) = text ++ more := by
  cases texts with
  | nil => exact ⟨[], (List.append_nil text).symm⟩
  | cons next texts => exact ⟨_, List.append_assoc _ _ _⟩

section Containers

variable {blanks closing : List Char}

theorem readItems_join {texts : List (List Char)} {values : List Value}
    (back : List.Forall₂ ReadsBack texts values) (some : texts ≠ [])
    (between : ∀ c ∈ blanks, isBlank c = true) (behind : ∀ c ∈ closing, isBlank c = true)
    (fuel position : Nat) (rest : List Char)
    (enough : 2 * (join (',' :: blanks) texts).length + 1 ≤ fuel) :
    Yields (readItems fuel ⟨position, join (',' :: blanks) texts ++ (closing ++ ']' :: rest)⟩)
      values rest := by
  induction back generalizing fuel position with
  | nil => exact absurd rfl some
  | @cons text value texts values first others ih =>
    obtain ⟨fuel, rfl⟩ : ∃ n, fuel = n + 1 := ⟨fuel - 1, by omega⟩
    rw [readItems]
    cases others with
    | nil =>
      simp only [join] at enough ⊢
      apply (first.reads fuel position _ (by omega) (stops_closing (.inl rfl) behind rest)).bind
      intro position
      simp only [skipBlanks_append closing (']' :: rest) behind (by simp [isBlank])]
      exact ⟨_, rfl⟩
    | @cons next _ texts _ second others =>
      simp only [join, List.append_assoc, List.cons_append, List.length_append,
        List.length_cons] at enough ⊢
      apply (first.reads fuel position _ (by omega) (stops_comma _)).bind
      intro position
      simp only [skipBlanks_comma, Rest.drop, List.drop_succ_cons, List.drop_zero]
      have visible : ∀ c ∈ (join (',' :: blanks) (next :: texts) ++
          (closing ++ ']' :: rest)).head?, isBlank c = false := by
        obtain ⟨more, joined⟩ := join_cons (',' :: blanks) next texts
        rw [joined, List.append_assoc]
        exact second.visible _
      rw [skipBlanks_append blanks _ between visible]
      apply (ih (by simp) fuel _ (by omega)).bind
      intro position
      exact ⟨position, rfl⟩

def entryText (entry : String × List Char) : List Char :=
  string entry.1.toList ++ ':' :: ' ' :: entry.2

def EntryReadsBack (rendered : String × List Char) (entry : String × Value) : Prop :=
  rendered.1 = entry.1 ∧ ReadsBack rendered.2 entry.2

theorem visible_entryText (entry : String × List Char) (rest : List Char) :
    ∀ c ∈ (entryText entry ++ rest).head?, isBlank c = false := by
  intro c head
  cases head
  rfl

def readBehindEntry (fuel : Nat) (entry : String × Value) (rest : Rest) :
    Except ReadError (List (String × Value) × Rest) :=
  match rest.skipBlanks.text with
  | '\x7d' :: _ => return ([entry], rest.skipBlanks.drop 1)
  | ',' :: _ => do
    let (entries, after) ← readEntries fuel (rest.skipBlanks.drop 1).skipBlanks
    return (entry :: entries, after)
  | _ => .error (.malformed .expectingComma rest.skipBlanks.position)

theorem readEntries_entry {rendered : String × List Char} {entry : String × Value}
    (back : EntryReadsBack rendered entry) (fuel position : Nat) {text : List Char}
    (enough : 2 * rendered.2.length ≤ fuel) (stops : Stops text) :
    ∃ behind, readEntries (fuel + 1) ⟨position, entryText rendered ++ text⟩ =
      readBehindEntry fuel entry ⟨behind, text⟩ := by
  obtain ⟨sameKey, value⟩ := back
  obtain ⟨colon, key⟩ := readQuoted_string rendered.1 position (':' :: ' ' :: (rendered.2 ++ text))
  have atColon := skipBlanks_append [] (':' :: ' ' :: (rendered.2 ++ text)) (by simp)
    (by simp [isBlank]) colon
  have atValue := skipBlanks_append [' '] (rendered.2 ++ text) (by simp [isBlank]) (value.visible text)
    (colon + 1)
  obtain ⟨behind, read⟩ := value.reads fuel (colon + 1 + 1) text enough stops
  have shape : entryText rendered ++ text =
      string rendered.1.toList ++ ':' :: ' ' :: (rendered.2 ++ text) := by simp [entryText]
  have quote : string rendered.1.toList =
      '"' :: (rendered.1.toList.flatMap escapeChar ++ ['"']) := rfl
  refine ⟨behind, ?_⟩
  rw [shape]
  rw [quote, List.cons_append] at key ⊢
  rw [sameKey] at key ⊢
  rw [readEntries]
  simp only [List.nil_append, List.length_nil, Nat.add_zero, List.singleton_append,
    List.length_singleton] at atColon atValue
  simp only [key, Bind.bind, Except.bind, atColon, Rest.drop, List.drop_succ_cons, List.drop_zero,
    atValue, read]
  rfl

theorem readEntries_join {rendered : List (String × List Char)} {entries : List (String × Value)}
    (back : List.Forall₂ EntryReadsBack rendered entries) (some : rendered ≠ [])
    (between : ∀ c ∈ blanks, isBlank c = true) (behind : ∀ c ∈ closing, isBlank c = true)
    (fuel position : Nat) (rest : List Char)
    (enough : 2 * (join (',' :: blanks) (rendered.map entryText)).length + 1 ≤ fuel) :
    Yields (readEntries fuel
      ⟨position, join (',' :: blanks) (rendered.map entryText) ++ (closing ++ '\x7d' :: rest)⟩)
      entries rest := by
  induction back generalizing fuel position with
  | nil => exact absurd rfl some
  | @cons text entry rendered entries first others ih =>
    obtain ⟨fuel, rfl⟩ : ∃ n, fuel = n + 1 := ⟨fuel - 1, by omega⟩
    have within : text.2.length ≤ (entryText text).length := by
      simp only [entryText, List.length_append, List.length_cons]
      omega
    -- The closing brace comes behind the last entry, a comma behind every other one.
    cases others with
    | nil =>
      simp only [List.map_cons, List.map_nil, join] at enough ⊢
      obtain ⟨start, opened⟩ := readEntries_entry first fuel position (by omega)
        (stops_closing (.inr rfl) behind rest)
      rw [opened, readBehindEntry]
      simp only [skipBlanks_append closing ('\x7d' :: rest) behind (by simp [isBlank])]
      exact ⟨_, rfl⟩
    | @cons next _ rendered _ second others =>
      simp only [List.map_cons, join, List.append_assoc, List.cons_append, List.length_append,
        List.length_cons] at enough ⊢
      have visible : ∀ c ∈ (join (',' :: blanks) ((next :: rendered).map entryText) ++
          (closing ++ '\x7d' :: rest)).head?, isBlank c = false := by
        obtain ⟨more, joined⟩ := join_cons (',' :: blanks) (entryText next)
          (rendered.map entryText)
        rw [List.map_cons, joined, List.append_assoc]
        exact visible_entryText next _
      obtain ⟨start, opened⟩ := readEntries_entry first fuel position (by omega) (stops_comma _)
      rw [opened, readBehindEntry]
      simp only [skipBlanks_comma, Rest.drop, List.drop_succ_cons, List.drop_zero]
      rw [← List.map_cons, skipBlanks_append blanks _ between visible]
      apply (ih (by simp) fuel _ (by simp only [List.map_cons]; omega)).bind
      intro position
      exact ⟨position, rfl⟩

theorem readsBack_list {texts : List (List Char)} {values : List Value}
    (back : List.Forall₂ ReadsBack texts values) (indent : Option Int) (level : Nat) :
    ReadsBack (bracketed indent level '[' ']' texts) (.list values) := by
  cases back with
  | nil =>
    refine ⟨⟨'[', [']'], rfl, by decide, by decide, by decide⟩, ?_⟩
    intro fuel position rest enough stops
    obtain ⟨fuel, rfl⟩ : ∃ n, fuel = n + 1 := ⟨fuel - 1, by simp [bracketed] at enough; omega⟩
    exact ⟨_, rfl⟩
  | @cons text value texts values first others =>
    obtain ⟨blanks, comma, between⟩ := separator_eq indent (level + 1)
    have before := blank_lineBreak indent (level + 1)
    have behind := blank_lineBreak indent level
    simp only [bracketed, List.isEmpty_cons, Bool.false_eq_true, if_false, comma]
    refine ⟨⟨'[', _, rfl, by decide, by decide, by decide⟩, ?_⟩
    intro fuel position rest enough stops
    simp only [List.cons_append, List.append_assoc, List.length_cons, List.length_append,
      List.nil_append] at enough ⊢
    obtain ⟨fuel, rfl⟩ : ∃ n, fuel = n + 1 := ⟨fuel - 1, by omega⟩
    obtain ⟨more, joined⟩ := join_cons (',' :: blanks) text texts
    obtain ⟨c, tail, same, opens⟩ := first.starts
    have visible := first.visible (more ++ (lineBreak indent level ++ ']' :: rest))
    rw [← List.append_assoc, ← joined] at visible
    rw [readValue]
    simp only [Rest.drop, List.drop_succ_cons, List.drop_zero,
      skipBlanks_append _ _ before visible]
    split
    · next closed =>
      rw [joined, same, List.cons_append, List.cons_append] at closed
      exact absurd (List.cons.inj closed).1 opens.2.1
    · apply (readItems_join (.cons first others) (by simp) between behind fuel _ rest
        (by omega)).bind
      intro position
      exact ⟨position, rfl⟩

theorem readsBack_dict {rendered : List (String × List Char)} {entries : List (String × Value)}
    (back : List.Forall₂ EntryReadsBack rendered entries) (keys : (entries.map Prod.fst).Nodup)
    (indent : Option Int) (level : Nat) :
    ReadsBack (bracketed indent level '\x7b' '\x7d' (rendered.map entryText)) (.dict entries) := by
  cases back with
  | nil =>
    refine ⟨⟨'\x7b', ['\x7d'], rfl, by decide, by decide, by decide⟩, ?_⟩
    intro fuel position rest enough stops
    obtain ⟨fuel, rfl⟩ : ∃ n, fuel = n + 1 := ⟨fuel - 1, by simp [bracketed] at enough; omega⟩
    exact ⟨_, rfl⟩
  | @cons text entry rendered entries first others =>
    obtain ⟨blanks, comma, between⟩ := separator_eq indent (level + 1)
    have before := blank_lineBreak indent (level + 1)
    have behind := blank_lineBreak indent level
    simp only [bracketed, List.map_cons, List.isEmpty_cons, Bool.false_eq_true, if_false, comma]
    refine ⟨⟨'\x7b', _, rfl, by decide, by decide, by decide⟩, ?_⟩
    intro fuel position rest enough stops
    simp only [List.cons_append, List.append_assoc, List.length_cons, List.length_append,
      List.nil_append] at enough ⊢
    obtain ⟨fuel, rfl⟩ : ∃ n, fuel = n + 1 := ⟨fuel - 1, by omega⟩
    obtain ⟨more, joined⟩ := join_cons (',' :: blanks) (entryText text) (rendered.map entryText)
    have visible := visible_entryText text (more ++ (lineBreak indent level ++ '\x7d' :: rest))
    rw [← List.append_assoc, ← joined] at visible
    rw [readValue]
    simp only [Rest.drop, List.drop_succ_cons, List.drop_zero,
      skipBlanks_append _ _ before visible]
    split
    · next closed =>
      rw [joined] at closed
      cases (List.cons.inj closed).1
    · have read := readEntries_join (.cons first others) (by simp) between behind fuel
        (position + 1 + (lineBreak indent (level + 1)).length) rest
        (by simp only [List.map_cons]; omega)
      apply read.bind
      intro position
      exact ⟨position, by rw [Value.dictOf_of_nodup keys]; rfl⟩

end Containers

/-- The text of the value reads back with its keys in order. -/
def RendersBack (indent : Option Int) (level : Nat) (value : Value) : Prop :=
  ∃ text, render indent level value = some text ∧ ReadsBack text value.sorted

theorem renderItems_readsBack {indent : Option Int} {level : Nat} {items : List Value}
    (back : ∀ item ∈ items, RendersBack indent level item) :
    ∃ texts, renderItems indent level items = some texts ∧
      List.Forall₂ ReadsBack texts (Value.sortedItems items) := by
  induction items with
  | nil => exact ⟨[], rfl, .nil⟩
  | cons item items ih =>
    obtain ⟨text, rendered, first⟩ := back item List.mem_cons_self
    obtain ⟨texts, others, rest⟩ := ih fun other member => back other (List.mem_cons_of_mem _ member)
    refine ⟨text :: texts, ?_, .cons first rest⟩
    simp [renderItems, rendered, others]

theorem renderEntries_readsBack {indent : Option Int} {level : Nat}
    {entries : List (String × Value)}
    (back : ∀ entry ∈ entries, RendersBack indent level entry.2) :
    ∃ texts, renderEntries indent level entries = some texts ∧
      List.Forall₂ EntryReadsBack texts (Value.sortedEntries entries) := by
  induction entries with
  | nil => exact ⟨[], rfl, .nil⟩
  | cons entry entries ih =>
    obtain ⟨text, rendered, first⟩ := back entry List.mem_cons_self
    obtain ⟨texts, others, rest⟩ := ih fun other member => back other (List.mem_cons_of_mem _ member)
    refine ⟨(entry.1, text) :: texts, ?_, .cons ⟨rfl, first⟩ rest⟩
    simp [renderEntries, rendered, others]

theorem rendersBack_of_plain {value : Value} (plain : value.Plain)
    (indent : Option Int) (level : Nat) : RendersBack indent level value := by
  induction plain generalizing level with
  | null => exact ⟨_, rfl, readsBack_constant "null" .null (by simp [constants])⟩
  | bool value =>
    cases value with
    | true => exact ⟨_, rfl, readsBack_constant "true" (.bool true) (by simp [constants])⟩
    | false => exact ⟨_, rfl, readsBack_constant "false" (.bool false) (by simp [constants])⟩
  | int short => exact ⟨_, rfl, readsBack_int short⟩
  | text value => exact ⟨_, rfl, readsBack_string value⟩
  | list _ ih =>
    obtain ⟨texts, rendered, back⟩ := renderItems_readsBack fun item member =>
      ih item member (level + 1)
    exact ⟨_, by rw [render, rendered]; rfl, readsBack_list back indent level⟩
  | @dict entries keys _ ih =>
    obtain ⟨texts, rendered, back⟩ := renderEntries_readsBack fun entry member =>
      ih entry member (level + 1)
    have sorted := sortByKey_forall₂ (fun _ _ related => related.1) back
    have distinct := (Value.keys_sortedEntries entries).nodup_iff.mpr keys
    exact ⟨_, by rw [render, rendered]; rfl, readsBack_dict sorted distinct indent level⟩

theorem parse_print {value : Value} (plain : value.Plain) (indent : Option Int) :
    ∃ document, print? indent value = some document ∧ parse document = .ok value.sorted := by
  obtain ⟨document, rendered, back⟩ := rendersBack_of_plain plain indent 0
  refine ⟨document, rendered, ?_⟩
  have start : Rest.skipBlanks ⟨0, document⟩ = ⟨0, document⟩ := by
    have visible := back.visible []
    rw [List.append_nil] at visible
    exact skipBlanks_append [] document (by simp) visible 0
  obtain ⟨position, read⟩ := back.reads (2 * document.length + 2) 0 [] (by omega) (by simp [Stops])
  rw [List.append_nil] at read
  obtain ⟨c, tail, same, opens⟩ := back.starts
  unfold parse
  split
  · exact absurd (List.cons.inj same).1.symm opens.2.2
  · simp only [start, read]
    rfl

end RuleLexer.Json
