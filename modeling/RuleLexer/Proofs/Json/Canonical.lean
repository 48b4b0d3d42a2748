import Mathlib.Data.List.Perm.Basic
import RuleLexer.Proofs.Json.RoundTrip

namespace RuleLexer

theorem map_eq_map_iff_zip {α β γ : Type} {f : α → γ} {g : β → γ} {as : List α} {bs : List β} :
    as.map f = bs.map g ↔ as.length = bs.length ∧ ∀ pair ∈ as.zip bs, f pair.1 = g pair.2 := by
  rw [← List.forall₂_eq_eq_eq, List.forall₂_map_left_iff, List.forall₂_map_right_iff,
    List.forall₂_iff_zip]
  simp only [Prod.forall]

theorem exists_of_perm_map {α β : Type} {f : α → β} {as bs : List α}
    (permuted : (as.map f).Perm (bs.map f)) : ∃ cs : List α, as.map f = cs.map f ∧ cs.Perm bs :=
  (congrFun (congrFun (List.eq_map_comp_perm f) _) _).mpr permuted

namespace Json

variable {α : Type}

theorem insertByKey_comm {first second : String × α} (keys : first.1 ≠ second.1)
    (entries : List (String × α)) :
    insertByKey first (insertByKey second entries) =
      insertByKey second (insertByKey first entries) := by
  have ordered : first.1 < second.1 ∨ second.1 < first.1 := by
    by_cases less : first.1 < second.1
    · exact .inl less
    · refine .inr (Decidable.by_contra fun more => keys ?_)
      exact String.le_antisymm (String.not_lt.mp more) (String.not_lt.mp less)
  induction entries with
  | nil =>
    rcases ordered with less | less
    · simp [insertByKey, less, String.lt_asymm less]
    · simp [insertByKey, less, String.lt_asymm less]
  | cons other entries ih =>
    by_cases before : first.1 < other.1
    · by_cases also : second.1 < other.1
      · rcases ordered with less | less
        · simp [insertByKey, before, also, less, String.lt_asymm less]
        · simp [insertByKey, before, also, less, String.lt_asymm less]
      · have apart : ¬second.1 < first.1 := fun less => also (String.lt_trans less before)
        simp [insertByKey, before, also, apart]
    · by_cases also : second.1 < other.1
      · have apart : ¬first.1 < second.1 := fun less => before (String.lt_trans less also)
        simp [insertByKey, before, also, apart]
      · simp [insertByKey, before, also, ih]

theorem sortByKey_eq_of_perm {entries others : List (String × α)}
    (keys : (entries.map Prod.fst).Nodup) (same : entries.Perm others) :
    sortByKey entries = sortByKey others := by
  apply same.foldr_eq'
  intro first inside second within rest
  by_cases key : first.1 = second.1
  · rw [List.inj_on_of_nodup_map keys inside within key]
  · exact insertByKey_comm (Ne.symm key) rest

section Render

variable {indent : Option Int} {level : Nat}

theorem renderItems_congr {items others : List Value} (length : items.length = others.length)
    (each : ∀ pair ∈ items.zip others, render indent level pair.1 = render indent level pair.2) :
    renderItems indent level items = renderItems indent level others := by
  have same := List.forall₂_iff_zip.mpr ⟨length, fun member => each _ member⟩
  clear length each
  induction same with
  | nil => rfl
  | cons first _ ih =>
    rw [renderItems, renderItems, ih]
    simp only at first
    rw [first]

def renderedEntry (indent : Option Int) (level : Nat) (entry : String × Value) :
    String × List Char :=
  (entry.1, (render indent level entry.2).getD [])

theorem renderEntries_eq_map {entries : List (String × Value)}
    (written : ∀ entry ∈ entries, (render indent level entry.2).isSome) :
    renderEntries indent level entries = some (entries.map (renderedEntry indent level)) := by
  induction entries with
  | nil => rfl
  | cons entry entries ih =>
    obtain ⟨key, value⟩ := entry
    rw [List.forall_mem_cons] at written
    obtain ⟨text, rendered⟩ := Option.isSome_iff_exists.mp written.1
    rw [renderEntries, ih written.2, rendered, List.map_cons, renderedEntry, rendered]
    rfl

theorem isSome_render_of_plain {value : Value} (plain : value.Plain) :
    (render indent level value).isSome := by
  obtain ⟨text, rendered, -⟩ := rendersBack_of_plain plain indent level
  rw [rendered]
  rfl

end Render

/-- The text of a value does not depend on the order of keys. -/
theorem render_eq_of_reordered {value other : Value} (same : value.Reordered other)
    (plain : value.Plain) (indent : Option Int) (level : Nat) :
    render indent level value = render indent level other := by
  induction same generalizing level with
  | same value => rfl
  | @list items others length _ ih =>
    cases plain with
    | list plain =>
      have each : ∀ pair ∈ items.zip others,
          render indent (level + 1) pair.1 = render indent (level + 1) pair.2 := fun pair member =>
        ih pair member (plain _ (List.of_mem_zip member).1) (level + 1)
      rw [render, render, renderItems_congr length each]
  | @dict entries renewed others keys _ order ih =>
    cases plain with
    | dict distinct plain =>
      have length : entries.length = renewed.length := by
        simpa only [List.length_map] using congrArg List.length keys
      have each : ∀ pair ∈ entries.zip renewed,
          render indent (level + 1) pair.1.2 = render indent (level + 1) pair.2.2 :=
        fun pair member => ih pair member (plain _ (List.of_mem_zip member).1) (level + 1)
      -- The keys are kept and the values are rendered alike, so both dictionaries hold the same
      -- texts of entries, and sorting by keys forgets their order.
      have texts : entries.map (renderedEntry indent (level + 1)) =
          renewed.map (renderedEntry indent (level + 1)) := by
        refine map_eq_map_iff_zip.mpr ⟨length, fun pair member => ?_⟩
        rw [renderedEntry, renderedEntry, each pair member,
          (map_eq_map_iff_zip.mp keys).2 pair member]
      have values : entries.map (fun entry => render indent (level + 1) entry.2) =
          renewed.map fun entry => render indent (level + 1) entry.2 :=
        map_eq_map_iff_zip.mpr ⟨length, each⟩
      have written : ∀ entry ∈ entries, (render indent (level + 1) entry.2).isSome :=
        fun entry member => isSome_render_of_plain (plain entry member)
      have writtenOthers : ∀ entry ∈ others, (render indent (level + 1) entry.2).isSome := by
        intro entry member
        have text := List.mem_map_of_mem (f := fun entry => render indent (level + 1) entry.2)
          (order.mem_iff.mpr member)
        rw [← values] at text
        obtain ⟨earlier, inside, equal⟩ := List.mem_map.mp text
        exact equal ▸ written earlier inside
      have keys : ((entries.map (renderedEntry indent (level + 1))).map Prod.fst).Nodup := by
        rw [List.map_map]
        exact distinct
      have sorted := sortByKey_eq_of_perm keys (texts ▸ order.map _)
      simp only [render, renderEntries_eq_map written, renderEntries_eq_map writtenOthers,
        Option.map_some, sorted]

end Json

namespace Value

theorem Plain.reordered_of_sorted_eq {value other : Value} (plain : value.Plain)
    (plainOther : other.Plain) (same : value.sorted = other.sorted) : value.Reordered other := by
  induction plain generalizing other with
  | null | bool | int | text =>
    cases plainOther <;> simp only [sorted] at same <;> cases same
    exact .same _
  | @list items _ ih =>
    cases plainOther with
    | @list others plainOthers =>
      simp only [sorted, sortedItems_eq_map, Value.list.injEq] at same
      obtain ⟨length, each⟩ := map_eq_map_iff_zip.mp same
      refine .list length fun pair member => ?_
      obtain ⟨inside, within⟩ := List.of_mem_zip member
      exact ih _ inside (plainOthers _ within) (each pair member)
    | _ => cases same
  | @dict entries _ _ ih =>
    cases plainOther with
    | @dict others _ plainOthers =>
      simp only [sorted, sortedEntries_eq_map, Value.dict.injEq] at same
      have permuted := Json.sortByKey_perm (entries.map fun entry => (entry.1, entry.2.sorted))
      rw [same] at permuted
      -- The other entries are brought into the order of these before they are compared.
      obtain ⟨renewed, equal, order⟩ :=
        exists_of_perm_map (permuted.symm.trans (Json.sortByKey_perm _))
      obtain ⟨length, each⟩ := map_eq_map_iff_zip.mp equal
      refine .dict (map_eq_map_iff_zip.mpr ⟨length, fun pair member => ?_⟩) ?_ order
      · exact (Prod.mk.inj (each pair member)).1
      · intro pair member
        obtain ⟨inside, within⟩ := List.of_mem_zip member
        exact ih _ inside (plainOthers _ (order.mem_iff.mp within))
          (Prod.mk.inj (each pair member)).2
    | _ => cases same

end Value

end RuleLexer
