import BeanMeter.Collection.SortedMap
import Mathlib.Data.List.Induction
import Mathlib.Data.List.Nodup

/-! # Maps made of lists

Which entries a sorted map has that is made of a list, in whatever order the list gives them.

* `SortedMap.mem_of_mem_ofList` — it has no others.
* `SortedMap.mem_entries_ofList_iff` — if the keys differ, it has them all.
* `SortedMap.ofList_of_perm` — the entries of a map make that map again.
* `SortedMap.ofList_perm` — if the keys differ, their order does not matter.
-/

namespace BeanMeter.SortedMap

open Std (TransOrd LawfulEqOrd)

variable {κ β : Type} [Ord κ] [TransOrd κ] {es : List (κ × β)} {e : κ × β} {m : SortedMap κ β}

theorem ofList_concat : ofList (es ++ [e]) = (ofList es).insert e.1 e.2 := by
  rw [ofList, List.foldl_append]
  rfl

theorem mem_of_mem_ofList (member : e ∈ (ofList es).entries) : e ∈ es := by
  induction es using List.reverseRecOn with
  | nil => cases member
  | append_singleton es last ih =>
    rw [ofList_concat] at member
    rcases mem_insertEntry member with rfl | earlier
    · simp
    · exact List.mem_append_left _ (ih earlier)

variable [LawfulEqOrd κ]

theorem mem_entries_ofList_iff (distinct : (es.map (·.1)).Nodup) :
    e ∈ (ofList es).entries ↔ e ∈ es := by
  refine ⟨mem_of_mem_ofList, fun member => ?_⟩
  obtain ⟨k, v⟩ := e
  rw [← get?_eq_some_iff]
  induction es using List.reverseRecOn with
  | nil => cases member
  | append_singleton es last ih =>
    classical
    rw [List.map_append, List.nodup_append] at distinct
    obtain ⟨before, -, fresh⟩ := distinct
    rw [ofList_concat, get?_insert]
    rcases List.mem_append.mp member with earlier | now
    · have other : k ≠ last.1 := fresh k (List.mem_map.mpr ⟨_, earlier, rfl⟩) last.1 (by simp)
      rw [if_neg other, ih before earlier]
    · obtain rfl := List.mem_singleton.mp now
      simp

/-- A list of all entries of a map makes the map, in whatever order they are. -/
theorem ofList_of_perm (perm : es.Perm m.entries) : ofList es = m := by
  have distinct : (es.map (·.1)).Nodup := (perm.map _).nodup_iff.mpr m.keys_nodup
  apply ext_entries
  apply entries_eq_of_mem_iff (ofList es).ascending m.ascending
  intro e
  rw [mem_entries_ofList_iff distinct, perm.mem_iff]

/-- If the keys differ, the order of the entries does not matter. -/
theorem ofList_perm {fs : List (κ × β)} (perm : es.Perm fs) (distinct : (fs.map (·.1)).Nodup) :
    ofList es = ofList fs := by
  have entries : fs.Perm (ofList fs).entries := by
    rw [List.perm_ext_iff_of_nodup (.of_map _ distinct) (.of_map _ (ofList fs).keys_nodup)]
    intro e
    rw [mem_entries_ofList_iff distinct]
  exact ofList_of_perm (perm.trans entries)

/-- A set is determined by its members. -/
theorem ext_keys {m n : SortedMap κ Unit} (same : ∀ k, k ∈ m.keys ↔ k ∈ n.keys) : m = n := by
  apply ext_get?
  intro k
  have present := same k
  rw [mem_keys_iff, mem_keys_iff] at present
  cases first : m.get? k <;> cases second : n.get? k <;> simp_all

end BeanMeter.SortedMap
