/-! # Sorted maps

A finite map kept as a list of entries whose keys strictly ascend. The order of the entries is
part of what the program shows (sorted labels, sorted object names), and keeping them sorted gives
each finite map exactly one representation.

* `SortedMap.insert`, `SortedMap.get?`, `SortedMap.ofList`, `SortedMap.overlay` — the operations.
* `SortedMap.get?_insert` — what an insertion does to the view `get?`.
* `SortedMap.ext_get?` — two maps with the same lookups are equal.
-/

namespace BeanMeter

open Std (TransOrd LawfulEqOrd OrientedCmp TransCmp)

/-- A finite map whose entries are listed by ascending key. -/
structure SortedMap (κ : Type u) (β : Type v) [Ord κ] where
  /-- The entries in ascending order of their keys. -/
  entries : List (κ × β)
  /-- Every key is below all later ones, so no key occurs twice. -/
  ascending : entries.Pairwise (fun a b => compare a.1 b.1 = .lt)

namespace SortedMap

variable {κ : Type u} {β : Type v} [Ord κ]

@[ext] theorem ext_entries {m n : SortedMap κ β} (h : m.entries = n.entries) : m = n := by
  cases m; cases n; cases h; rfl

instance [DecidableEq κ] [DecidableEq β] : DecidableEq (SortedMap κ β) := fun m n =>
  decidable_of_iff (m.entries = n.entries) ⟨ext_entries, fun h => h ▸ rfl⟩

instance [BEq κ] [BEq β] : BEq (SortedMap κ β) := ⟨fun m n => m.entries == n.entries⟩

instance [Repr κ] [Repr β] : Repr (SortedMap κ β) := ⟨fun m p => reprPrec m.entries p⟩

/-- The map without entries. -/
def empty : SortedMap κ β := ⟨[], .nil⟩

instance : EmptyCollection (SortedMap κ β) := ⟨empty⟩
instance : Inhabited (SortedMap κ β) := ⟨empty⟩

/-! ## Looking up -/

/-- The value under a key in a list of entries. -/
def lookup (k : κ) : List (κ × β) → Option β
  | [] => none
  | (k', v) :: rest => if compare k k' = .eq then some v else lookup k rest

/-- The value under a key. -/
def get? (m : SortedMap κ β) (k : κ) : Option β := lookup k m.entries

/-- Whether a key has a value. -/
def contains (m : SortedMap κ β) (k : κ) : Bool := (m.get? k).isSome

/-- The keys in ascending order. -/
def keys (m : SortedMap κ β) : List κ := m.entries.map (·.1)

/-- The values in the order of their keys. -/
def values (m : SortedMap κ β) : List β := m.entries.map (·.2)

/-- The number of entries. -/
def size (m : SortedMap κ β) : Nat := m.entries.length

/-- Whether there is no entry. -/
def isEmpty (m : SortedMap κ β) : Bool := m.entries.isEmpty

theorem lookup_eq_some_of_mem [TransOrd κ] {es : List (κ × β)} {k : κ} {v : β}
    (h : es.Pairwise (fun a b => compare a.1 b.1 = .lt)) (hm : (k, v) ∈ es) [LawfulEqOrd κ] :
    lookup k es = some v := by
  induction es with
  | nil => cases hm
  | cons e rest ih =>
    obtain ⟨k', v'⟩ := e
    have hp := List.pairwise_cons.1 h
    rcases List.mem_cons.1 hm with he | hr
    · cases he
      simp [lookup]
    · have hlt := hp.1 _ hr
      have hne : compare k k' ≠ .eq := by
        intro heq
        have := OrientedCmp.eq_symm heq
        simp_all
      simp [lookup, hne, ih hp.2 hr]

theorem mem_of_lookup_eq_some [LawfulEqOrd κ] {es : List (κ × β)} {k : κ} {v : β}
    (h : lookup k es = some v) : (k, v) ∈ es := by
  induction es with
  | nil => cases h
  | cons e rest ih =>
    obtain ⟨k', v'⟩ := e
    by_cases heq : compare k k' = .eq
    · have hk := LawfulEqOrd.eq_of_compare heq
      simp [lookup] at h
      simp_all
    · simp [lookup, heq] at h
      exact List.mem_cons_of_mem _ (ih h)

theorem get?_eq_some_iff [TransOrd κ] [LawfulEqOrd κ] {m : SortedMap κ β} {k : κ} {v : β} :
    m.get? k = some v ↔ (k, v) ∈ m.entries :=
  ⟨mem_of_lookup_eq_some, fun h => lookup_eq_some_of_mem m.ascending h⟩

/-- Sorted lists with the same entries are equal. -/
theorem entries_eq_of_mem_iff [TransOrd κ] {xs ys : List (κ × β)}
    (hx : xs.Pairwise (fun a b => compare a.1 b.1 = .lt))
    (hy : ys.Pairwise (fun a b => compare a.1 b.1 = .lt))
    (h : ∀ e, e ∈ xs ↔ e ∈ ys) : xs = ys := by
  induction xs generalizing ys with
  | nil =>
    cases ys with
    | nil => rfl
    | cons y ys => exact absurd ((h y).2 (List.mem_cons_self)) (by simp)
  | cons x xs ih =>
    cases ys with
    | nil => exact absurd ((h x).1 (List.mem_cons_self)) (by simp)
    | cons y ys =>
      have hpx := List.pairwise_cons.1 hx
      have hpy := List.pairwise_cons.1 hy
      have hxy : x = y := by
        rcases List.mem_cons.1 ((h x).1 List.mem_cons_self) with e | hmem
        · exact e
        · rcases List.mem_cons.1 ((h y).2 List.mem_cons_self) with e | hmem'
          · exact e.symm
          · have h1 := hpy.1 _ hmem
            have h2 := hpx.1 _ hmem'
            exact absurd (TransCmp.lt_trans h1 h2) (by simp)
      subst hxy
      have hnx : x ∉ xs := fun hm => absurd (hpx.1 _ hm) (by simp)
      have hny : x ∉ ys := fun hm => absurd (hpy.1 _ hm) (by simp)
      rw [ih hpx.2 hpy.2]
      intro e
      constructor
      · intro he
        rcases List.mem_cons.1 ((h e).1 (List.mem_cons_of_mem _ he)) with rfl | hm
        · exact absurd he hnx
        · exact hm
      · intro he
        rcases List.mem_cons.1 ((h e).2 (List.mem_cons_of_mem _ he)) with rfl | hm
        · exact absurd he hny
        · exact hm

/-- A sorted map is determined by its lookups. -/
theorem ext_get? [TransOrd κ] [LawfulEqOrd κ] {m n : SortedMap κ β}
    (h : ∀ k, m.get? k = n.get? k) : m = n := by
  apply ext_entries
  apply entries_eq_of_mem_iff m.ascending n.ascending
  rintro ⟨k, v⟩
  rw [← get?_eq_some_iff, ← get?_eq_some_iff, h]

/-! ## Inserting -/

/-- Puts an entry at its place, replacing an entry with the same key. -/
def insertEntry (k : κ) (v : β) : List (κ × β) → List (κ × β)
  | [] => [(k, v)]
  | (k', v') :: rest =>
    match compare k k' with
    | .lt => (k, v) :: (k', v') :: rest
    | .eq => (k, v) :: rest
    | .gt => (k', v') :: insertEntry k v rest

theorem mem_insertEntry {k : κ} {v : β} {es : List (κ × β)} {e : κ × β}
    (h : e ∈ insertEntry k v es) : e = (k, v) ∨ e ∈ es := by
  induction es with
  | nil => simpa [insertEntry] using h
  | cons x rest ih =>
    obtain ⟨k', v'⟩ := x
    unfold insertEntry at h
    split at h
    · simpa using h
    · rcases List.mem_cons.1 h with h | h
      · exact .inl h
      · exact .inr (List.mem_cons_of_mem _ h)
    · rcases List.mem_cons.1 h with h | h
      · exact .inr (h ▸ List.mem_cons_self)
      · rcases ih h with h | h
        · exact .inl h
        · exact .inr (List.mem_cons_of_mem _ h)

theorem ascending_insertEntry [TransOrd κ] {k : κ} {v : β} {es : List (κ × β)}
    (h : es.Pairwise (fun a b => compare a.1 b.1 = .lt)) :
    (insertEntry k v es).Pairwise (fun a b => compare a.1 b.1 = .lt) := by
  induction es with
  | nil => exact List.pairwise_singleton _ _
  | cons x rest ih =>
    obtain ⟨k', v'⟩ := x
    have hp := List.pairwise_cons.1 h
    unfold insertEntry
    split
    next hlt =>
      refine List.pairwise_cons.2 ⟨?_, h⟩
      intro e he
      rcases List.mem_cons.1 he with rfl | he
      · exact hlt
      · exact TransCmp.lt_trans hlt (hp.1 _ he)
    next heq =>
      refine List.pairwise_cons.2 ⟨?_, hp.2⟩
      intro e he
      exact TransCmp.lt_of_eq_of_lt heq (hp.1 _ he)
    next hgt =>
      refine List.pairwise_cons.2 ⟨?_, ih hp.2⟩
      intro e he
      rcases mem_insertEntry he with rfl | he
      · exact OrientedCmp.lt_of_gt hgt
      · exact hp.1 _ he

theorem lookup_insertEntry [TransOrd κ] {k j : κ} {v : β} {es : List (κ × β)} :
    lookup j (insertEntry k v es) = if compare j k = .eq then some v else lookup j es := by
  induction es with
  | nil => simp [insertEntry, lookup]
  | cons x rest ih =>
    obtain ⟨k', v'⟩ := x
    unfold insertEntry
    split
    next hlt => simp [lookup]
    next heq =>
      have hcong : compare j k = compare j k' := TransCmp.congr_right heq
      simp only [lookup, hcong]
      split <;> rfl
    next hgt =>
      simp only [lookup, ih]
      by_cases hj : compare j k = .eq
      · have : compare j k' = .gt := by rw [TransCmp.congr_left hj]; exact hgt
        simp [hj, this]
      · simp [hj]

/-- Puts a value under a key, replacing the one that was there. -/
def insert [TransOrd κ] (m : SortedMap κ β) (k : κ) (v : β) : SortedMap κ β :=
  ⟨insertEntry k v m.entries, ascending_insertEntry m.ascending⟩

@[simp] theorem get?_empty (k : κ) : (empty : SortedMap κ β).get? k = none := rfl

theorem get?_insert [TransOrd κ] [LawfulEqOrd κ] [DecidableEq κ] (m : SortedMap κ β) (k j : κ)
    (v : β) : (m.insert k v).get? j = if j = k then some v else m.get? j := by
  simp [insert, get?, lookup_insertEntry]

/-- The map of a list of entries; of two entries with one key the later wins. -/
def ofList [TransOrd κ] (es : List (κ × β)) : SortedMap κ β :=
  es.foldl (fun m e => m.insert e.1 e.2) empty

/-- All entries of both maps; where both have a key the second one wins. -/
def overlay [TransOrd κ] (m n : SortedMap κ β) : SortedMap κ β :=
  n.entries.foldl (fun m e => m.insert e.1 e.2) m

/-- Replaces what is under a key by a function of it. -/
def alter [TransOrd κ] (m : SortedMap κ β) (k : κ) (f : Option β → β) : SortedMap κ β :=
  m.insert k (f (m.get? k))

theorem get?_alter [TransOrd κ] [LawfulEqOrd κ] [DecidableEq κ] (m : SortedMap κ β) (k j : κ)
    (f : Option β → β) : (m.alter k f).get? j = if j = k then some (f (m.get? k)) else m.get? j :=
  get?_insert m k j _

/-- Keeps the entries that pass a test. -/
def filter (p : κ → β → Bool) (m : SortedMap κ β) : SortedMap κ β :=
  ⟨m.entries.filter (fun e => p e.1 e.2), m.ascending.sublist List.filter_sublist⟩

/-- Replaces every value by a function of its key and itself. -/
def mapValues {γ : Type w} (f : κ → β → γ) (m : SortedMap κ β) : SortedMap κ γ :=
  ⟨m.entries.map (fun e => (e.1, f e.1 e.2)),
    List.pairwise_map.2 (m.ascending.imp (fun h => h))⟩

theorem get?_filter [TransOrd κ] [LawfulEqOrd κ] (p : κ → β → Bool) (m : SortedMap κ β) (k : κ) :
    (m.filter p).get? k = (m.get? k).filter (p k) := by
  apply Option.ext
  intro v
  simp [get?_eq_some_iff, filter, Option.filter_eq_some_iff]

/-! ## Keys -/

theorem mem_keys_iff [TransOrd κ] [LawfulEqOrd κ] {m : SortedMap κ β} {k : κ} :
    k ∈ m.keys ↔ ∃ v, m.get? k = some v := by
  simp [keys, get?_eq_some_iff]

theorem keys_ascending (m : SortedMap κ β) :
    m.keys.Pairwise (fun j k => compare j k = .lt) :=
  List.pairwise_map.2 m.ascending

theorem keys_nodup [TransOrd κ] (m : SortedMap κ β) : m.keys.Nodup := by
  apply m.keys_ascending.imp
  rintro j k ascends rfl
  simp at ascends

end SortedMap

end BeanMeter
