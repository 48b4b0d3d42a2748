import Mathlib.Algebra.GroupWithZero.Nat
import Mathlib.Data.List.Nodup
import RuleLexer.Json.Printer

namespace RuleLexer

namespace Value

/-- Built from null, truth values, integers that are short enough to be read, texts, lists and
dictionaries whose keys differ. -/
inductive Plain : Value → Prop
  | null : Plain .null
  | bool (value : Bool) : Plain (.bool value)
  | int {value : Int} (short : value.natAbs < 10 ^ Number.digitLimit) : Plain (.int value)
  | text (value : String) : Plain (.text value)
  | list {items : List Value} (plain : ∀ item ∈ items, Plain item) : Plain (.list items)
  | dict {entries : List (String × Value)} (keys : (entries.map Prod.fst).Nodup)
      (plain : ∀ entry ∈ entries, Plain entry.2) : Plain (.dict entries)

/-- Equal but for the order in which dictionaries have their entries, at any depth. -/
inductive Reordered : Value → Value → Prop
  | same (value : Value) : Reordered value value
  | list {items others : List Value} (length : items.length = others.length)
      (each : ∀ pair ∈ items.zip others, Reordered pair.1 pair.2) :
      Reordered (.list items) (.list others)
  | dict {entries renewed others : List (String × Value)}
      (keys : entries.map Prod.fst = renewed.map Prod.fst)
      (each : ∀ pair ∈ entries.zip renewed, Reordered pair.1.2 pair.2.2)
      (order : renewed.Perm others) : Reordered (.dict entries) (.dict others)

mutual

def sorted : Value → Value
  | .list items => .list (sortedItems items)
  | .tuple items => .tuple (sortedItems items)
  | .dict entries => .dict (Json.sortByKey (sortedEntries entries))
  | value => value

def sortedItems : List Value → List Value
  | [] => []
  | item :: items => sorted item :: sortedItems items

def sortedEntries : List (String × Value) → List (String × Value)
  | [] => []
  | (key, value) :: entries => (key, sorted value) :: sortedEntries entries

end

theorem sortedItems_eq_map (items : List Value) : sortedItems items = items.map sorted := by
  induction items with
  | nil => rfl
  | cons item items ih => rw [sortedItems, ih, List.map_cons]

theorem sortedEntries_eq_map (entries : List (String × Value)) :
    sortedEntries entries = entries.map fun entry => (entry.1, entry.2.sorted) := by
  induction entries with
  | nil => rfl
  | cons entry entries ih => rw [sortedEntries, ih, List.map_cons]

end Value

namespace Json

variable {α β : Type}

theorem insertByKey_perm (entry : String × α) (entries : List (String × α)) :
    (insertByKey entry entries).Perm (entry :: entries) := by
  induction entries with
  | nil => exact .refl _
  | cons other entries ih =>
    rw [insertByKey]
    split
    · exact .refl _
    · exact (ih.cons other).trans (.swap entry other entries)

theorem sortByKey_perm (entries : List (String × α)) : (sortByKey entries).Perm entries := by
  induction entries with
  | nil => exact .refl _
  | cons entry entries ih =>
    exact (insertByKey_perm entry (sortByKey entries)).trans (ih.cons entry)

theorem insertByKey_forall₂ {related : String × α → String × β → Prop}
    (keyed : ∀ a b, related a b → a.1 = b.1) {a : String × α} {b : String × β} (first : related a b)
    {as : List (String × α)} {bs : List (String × β)} (others : List.Forall₂ related as bs) :
    List.Forall₂ related (insertByKey a as) (insertByKey b bs) := by
  induction others with
  | nil => exact .cons first .nil
  | cons head tail ih =>
    simp only [insertByKey, keyed _ _ first, keyed _ _ head]
    split
    · exact .cons first (.cons head tail)
    · exact .cons head ih

theorem sortByKey_forall₂ {related : String × α → String × β → Prop}
    (keyed : ∀ a b, related a b → a.1 = b.1) {as : List (String × α)} {bs : List (String × β)}
    (both : List.Forall₂ related as bs) :
    List.Forall₂ related (sortByKey as) (sortByKey bs) := by
  induction both with
  | nil => exact .nil
  | cons head _ ih => exact insertByKey_forall₂ keyed head ih

end Json

namespace Value

theorem mem_zip_map {α β : Type} {f : α → β} {items : List α} {pair : α × β}
    (member : pair ∈ items.zip (items.map f)) : pair.1 ∈ items ∧ pair.2 = f pair.1 := by
  induction items with
  | nil => cases member
  | cons item items ih =>
    rcases List.mem_cons.mp member with rfl | member
    · exact ⟨List.mem_cons_self, rfl⟩
    · exact ⟨List.mem_cons_of_mem _ (ih member).1, (ih member).2⟩

theorem Plain.reordered_sorted {value : Value} (plain : value.Plain) :
    value.Reordered value.sorted := by
  induction plain with
  | null | bool | int | text => exact .same _
  | @list items _ ih =>
    rw [sorted, sortedItems_eq_map]
    apply Reordered.list (by rw [List.length_map])
    intro pair member
    obtain ⟨inside, same⟩ := mem_zip_map member
    rw [same]
    exact ih _ inside
  | @dict entries _ _ ih =>
    rw [sorted, sortedEntries_eq_map]
    apply Reordered.dict _ _ (Json.sortByKey_perm _).symm
    · rw [List.map_map]
      rfl
    · intro pair member
      obtain ⟨inside, same⟩ := mem_zip_map member
      rw [same]
      exact ih _ inside

theorem keys_sortedEntries (entries : List (String × Value)) :
    (Json.sortByKey (sortedEntries entries)).map Prod.fst |>.Perm (entries.map Prod.fst) := by
  have same : (sortedEntries entries).map Prod.fst = entries.map Prod.fst := by
    rw [sortedEntries_eq_map, List.map_map]
    rfl
  rw [← same]
  exact (Json.sortByKey_perm _).map _

theorem insert_of_new {entries : List (String × Value)} {key : String}
    (new : key ∉ entries.map Prod.fst) (value : Value) :
    insert entries key value = entries ++ [(key, value)] := by
  induction entries with
  | nil => rfl
  | cons entry entries ih =>
    simp only [List.map_cons, List.mem_cons, not_or] at new
    rw [insert, if_neg (Ne.symm new.1), ih new.2, List.cons_append]

theorem dictOf_of_nodup {entries : List (String × Value)} (keys : (entries.map Prod.fst).Nodup) :
    dictOf entries = .dict entries := by
  have entered : ∀ done : List (String × Value), ((done ++ entries).map Prod.fst).Nodup →
      entries.foldl (fun done entry => insert done entry.1 entry.2) done = done ++ entries := by
    clear keys
    induction entries with
    | nil =>
      intro done _
      rw [List.foldl_nil, List.append_nil]
    | cons entry entries ih =>
      intro done keys
      have new : entry.1 ∉ done.map Prod.fst := by
        rw [List.map_append, List.map_cons] at keys
        intro member
        exact (List.nodup_append.mp keys).2.2 _ member _ List.mem_cons_self rfl
      rw [List.foldl_cons, insert_of_new new, ih, List.append_assoc, List.singleton_append]
      rwa [List.append_assoc, List.singleton_append]
  rw [dictOf, entered [] keys, List.nil_append]

theorem lookup_eq_some_of_mem {entries : List (String × Value)}
    (keys : (entries.map Prod.fst).Nodup) {key : String} {value : Value}
    (member : (key, value) ∈ entries) : lookup entries key = some value := by
  induction entries with
  | nil => cases member
  | cons entry entries ih =>
    rw [List.map_cons, List.nodup_cons] at keys
    unfold lookup
    rcases List.mem_cons.mp member with rfl | member
    · exact List.lookup_cons_self
    · have other : (key == entry.1) = false := by
        apply beq_false_of_ne
        intro same
        exact keys.1 (same ▸ List.mem_map_of_mem member)
      rw [List.lookup_cons, other]
      exact ih keys.2 member

theorem lookup_sorted {entries : List (String × Value)} (keys : (entries.map Prod.fst).Nodup)
    {key : String} {value : Value} (member : (key, value) ∈ entries) :
    lookup (Json.sortByKey (sortedEntries entries)) key = some value.sorted := by
  apply lookup_eq_some_of_mem ((keys_sortedEntries entries).nodup_iff.mpr keys)
  rw [(Json.sortByKey_perm _).mem_iff, sortedEntries_eq_map]
  exact List.mem_map_of_mem member

end Value

end RuleLexer
