import BeanMeter.Collection.SortedMap

/-! # Maps laid over each other

A map laid over another one, where a function says what becomes of a key that has a value in the
upper map.

* `SortedMap.overlayWith` — the general form of `SortedMap.overlay`.
* `SortedMap.get?_overlayWith`, `SortedMap.get?_overlay` — what is found in both maps together.
* `SortedMap.overlay_comm` — maps that agree can be laid over each other either way.
-/

namespace BeanMeter.SortedMap

open Std (TransOrd LawfulEqOrd)

section

variable {κ : Type u} {β γ : Type v} [Ord κ]

theorem lookup_eq_none_of_above {es : List (κ × β)} {k : κ}
    (above : ∀ e ∈ es, compare k e.1 = .lt) : lookup k es = none := by
  induction es with
  | nil => rfl
  | cons e es ih =>
    obtain ⟨own, others⟩ := List.forall_mem_cons.mp above
    simp [lookup, own, ih others]

variable [TransOrd κ]

/-- Puts every value of the second map into the first one by a function of what is there. -/
def overlayWith (f : Option β → γ → β) (m : SortedMap κ β) (n : SortedMap κ γ) : SortedMap κ β :=
  n.entries.foldl (fun m e => m.alter e.1 fun old => f old e.2) m

theorem overlay_eq_overlayWith (m n : SortedMap κ β) :
    m.overlay n = m.overlayWith (fun _ new => new) n := rfl

variable [LawfulEqOrd κ] [DecidableEq κ]

theorem get?_foldl_alter (f : Option β → γ → β) {es : List (κ × γ)}
    (ascending : es.Pairwise fun a b => compare a.1 b.1 = .lt) (m : SortedMap κ β) (k : κ) :
    (es.foldl (fun m e => m.alter e.1 fun old => f old e.2) m).get? k =
      ((lookup k es).map (f (m.get? k))).or (m.get? k) := by
  induction es generalizing m with
  | nil => rfl
  | cons e es ih =>
    obtain ⟨own, others⟩ := List.pairwise_cons.mp ascending
    rw [List.foldl_cons, ih others, get?_alter]
    by_cases same : k = e.1
    · -- All later keys are greater, so that this one does not come again.
      subst same
      simp [lookup, lookup_eq_none_of_above own]
    · have apart : compare k e.1 ≠ .eq := fun equal => same (LawfulEqOrd.eq_of_compare equal)
      simp [lookup, same, apart]

theorem get?_overlayWith (f : Option β → γ → β) (m : SortedMap κ β) (n : SortedMap κ γ) (k : κ) :
    (m.overlayWith f n).get? k = ((n.get? k).map (f (m.get? k))).or (m.get? k) :=
  get?_foldl_alter f n.ascending m k

end

section

variable {κ : Type u} {β : Type v} [Ord κ] [TransOrd κ] [LawfulEqOrd κ] [DecidableEq κ]

theorem get?_overlay (m n : SortedMap κ β) (k : κ) :
    (m.overlay n).get? k = (n.get? k).or (m.get? k) := by
  rw [overlay_eq_overlayWith, get?_overlayWith]
  exact congrArg (fun found => Option.or found (m.get? k)) Option.map_id'

theorem empty_overlay (m : SortedMap κ β) : empty.overlay m = m := by
  apply ext_get?
  intro k
  simp [get?_overlay]

theorem overlay_insert (m n : SortedMap κ β) (k : κ) (v : β) :
    m.overlay (n.insert k v) = (m.overlay n).insert k v := by
  apply ext_get?
  intro j
  simp only [get?_overlay, get?_insert]
  split <;> rfl

theorem overlay_comm {m n : SortedMap κ β}
    (agree : ∀ k v w, m.get? k = some v → n.get? k = some w → v = w) :
    m.overlay n = n.overlay m := by
  apply ext_get?
  intro k
  rw [get?_overlay, get?_overlay]
  cases first : m.get? k with
  | none => simp
  | some v =>
    cases second : n.get? k with
    | none => simp
    | some w => simp [agree k v w first second]

end

end BeanMeter.SortedMap
