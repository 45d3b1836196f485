import BeanMeter.Config.Checked
import BeanMeter.Proofs.Text.Separators

/-! # Lists in texts

The list of target systems is taken from a text: the items between its commas, each once.

* `FirstOccurrences` — a list without its repetitions, told apart from all other lists.
* `Items` — what is listed in a text.
* `firstOccurrences_targetList` — the list of target systems.
-/

namespace BeanMeter

/-! ## First occurrences -/

/-- The second list has the elements of the first one, in order of their first occurrences. -/
structure FirstOccurrences (xs ys : List String) : Prop where
  members : ∀ x, x ∈ ys ↔ x ∈ xs
  order : ys.Pairwise fun x y => xs.idxOf x < xs.idxOf y

section

variable {x : String} {seen xs ys zs : List String}

theorem mem_distinctAfter_iff : x ∈ distinctAfter seen xs ↔ x ∈ xs ∧ x ∉ seen := by
  induction xs generalizing seen with
  | nil => simp [distinctAfter]
  | cons y rest ih =>
    unfold distinctAfter
    split
    · rw [ih]
      grind
    · rw [List.mem_cons, ih]
      grind

/-- Positions in a longer list, of anything but its first element. -/
theorem pairwise_idxOf_cons (apart : ∀ y ∈ ys, y ≠ x)
    (order : ys.Pairwise fun y z => xs.idxOf y < xs.idxOf z) :
    ys.Pairwise fun y z => (x :: xs).idxOf y < (x :: xs).idxOf z := by
  refine order.imp_of_mem ?_
  intro y z first second before
  rw [List.idxOf_cons_ne _ (apart y first).symm, List.idxOf_cons_ne _ (apart z second).symm]
  omega

theorem pairwise_distinctAfter :
    (distinctAfter seen xs).Pairwise fun x y => xs.idxOf x < xs.idxOf y := by
  induction xs generalizing seen with
  | nil => simp [distinctAfter]
  | cons x rest ih =>
    unfold distinctAfter
    split
    · next old =>
      apply pairwise_idxOf_cons _ ih
      rintro y member rfl
      exact (mem_distinctAfter_iff.mp member).2 old
    · have later : ∀ y ∈ distinctAfter (x :: seen) rest, y ≠ x := by
        rintro y member rfl
        exact (mem_distinctAfter_iff.mp member).2 List.mem_cons_self
      refine List.pairwise_cons.mpr ⟨?_, pairwise_idxOf_cons later ih⟩
      intro y member
      rw [List.idxOf_cons_self, List.idxOf_cons_ne _ (later y member).symm]
      omega

theorem firstOccurrences_distinct : FirstOccurrences xs (distinct xs) :=
  ⟨fun x => by simp [distinct, mem_distinctAfter_iff], pairwise_distinctAfter⟩

theorem FirstOccurrences.nodup (first : FirstOccurrences xs ys) : ys.Nodup := by
  apply first.order.imp
  rintro x y before rfl
  omega

/-- Leaving elements out does not change the order of the others. -/
theorem idxOf_filter_lt {p : String → Bool} {y : String} (stays : p x = true)
    (before : xs.idxOf x < xs.idxOf y) : (xs.filter p).idxOf x < (xs.filter p).idxOf y := by
  induction xs with
  | nil => simp at before
  | cons z rest ih => grind

theorem FirstOccurrences.filter (first : FirstOccurrences xs ys) (p : String → Bool) :
    FirstOccurrences (xs.filter p) (ys.filter p) := by
  constructor
  · intro x
    rw [List.mem_filter, List.mem_filter, first.members]
  · refine (first.order.filter p).imp_of_mem ?_
    intro x y left _ before
    exact idxOf_filter_lt (List.mem_filter.mp left).2 before

end

/-! ## Lists in texts -/

/-- The items of a list in a text: what stands between its commas, without the blanks around it and
unless it is nothing else. -/
def Items (text : String) (items : List String) : Prop :=
  ∃ pieces : List String, pieces ≠ [] ∧ ",".intercalate pieces = text ∧
    (∀ piece ∈ pieces, ',' ∉ piece.toList) ∧ items = (pieces.map Text.trim).filter (· ≠ "")

theorem items_iff {text : String} {items : List String} : Items text items ↔
    items = ((Text.splitString ',' text).map Text.trim).filter (· ≠ "") := by
  constructor
  · rintro ⟨pieces, some, rfl, clear, rfl⟩
    have split : Text.splitOn ',' (",".intercalate pieces).toList = pieces.map String.toList := by
      rw [Text.splitOn_eq_iff]
      refine ⟨by simpa using some, by simp [String.toList_intercalate], ?_⟩
      rwa [List.forall_mem_map]
    rw [Text.splitString, split]
    simp [Function.comp_def]
  · rintro rfl
    have split := Text.splitOn_eq_iff.mp (rfl : Text.splitOn ',' text.toList = _)
    refine ⟨Text.splitString ',' text, ?_, ?_, ?_, rfl⟩
    · simpa [Text.splitString] using split.1
    · rw [← String.toList_inj, String.toList_intercalate, Text.splitString, List.map_map]
      simpa [Function.comp_def] using split.2.1
    · rw [Text.splitString, List.forall_mem_map]
      simpa using split.2.2

theorem firstOccurrences_targetList {text : String} {items : List String}
    (listed : Items text items) : FirstOccurrences items (targetList text) := by
  rw [items_iff.mp listed]
  exact firstOccurrences_distinct

theorem nodup_targetList (text : String) : (targetList text).Nodup :=
  firstOccurrences_distinct.nodup

end BeanMeter
