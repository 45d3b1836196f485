import Mathlib.Data.List.Forall2

/-! # Outcomes

What a computation of several steps that may fail came to: each step succeeded, or the first one
that did not gave the error.
-/

namespace BeanMeter

section

variable {ε : Type u} {α β : Type v}

theorem Except.map_eq_ok_iff {x : Except ε α} {f : α → β} {b : β} :
    x.map f = .ok b ↔ ∃ a, x = .ok a ∧ f a = b := by
  cases x <;> simp [Except.map]

theorem Except.bind_eq_ok_iff {x : Except ε α} {f : α → Except ε β} {b : β} :
    x.bind f = .ok b ↔ ∃ a, x = .ok a ∧ f a = .ok b := by
  cases x <;> simp [Except.bind]

theorem Except.map_eq_error_iff {x : Except ε α} {f : α → β} {e : ε} :
    x.map f = .error e ↔ x = .error e := by
  cases x <;> simp [Except.map]

theorem Except.bind_eq_error_iff {x : Except ε α} {f : α → Except ε β} {e : ε} :
    x.bind f = .error e ↔ x = .error e ∨ ∃ a, x = .ok a ∧ f a = .error e := by
  cases x <;> simp [Except.bind]

theorem Except.map_bind {γ : Type v} {x : Except ε α} {f : α → Except ε β} {g : β → γ} :
    (x >>= f).map g = x >>= fun a => (f a).map g := by
  cases x <;> rfl

section

variable {ε' : Type u} {f : ε → ε'}

@[simp] theorem Except.mapError_ok (a : α) :
    (Except.ok a : Except ε α).mapError f = .ok a := rfl

@[simp] theorem Except.mapError_error (e : ε) :
    (Except.error e : Except ε α).mapError f = .error (f e) := rfl

theorem Except.mapError_eq_ok_iff {x : Except ε α} {a : α} :
    x.mapError f = .ok a ↔ x = .ok a := by
  cases x <;> simp

end

theorem Except.toOption_eq_some_iff {x : Except ε α} {a : α} :
    x.toOption = some a ↔ x = .ok a := by
  cases x <;> simp [Except.toOption]

theorem exists_of_mapM_eq_error {f : α → Except ε β} {xs : List α} {e : ε}
    (failed : xs.mapM f = .error e) : ∃ x ∈ xs, f x = .error e := by
  induction xs with
  | nil => cases failed
  | cons x rest ih =>
    rw [List.mapM_cons] at failed
    rcases Except.bind_eq_error_iff.mp failed with first | ⟨_, _, failed⟩
    · exact ⟨x, List.mem_cons_self, first⟩
    · rcases Except.bind_eq_error_iff.mp failed with later | ⟨_, _, failed⟩
      · obtain ⟨x', member, found⟩ := ih later
        exact ⟨x', List.mem_cons_of_mem x member, found⟩
      · cases failed

theorem mem_of_mapM_eq_ok {f : α → Except ε β} {xs : List α} {ys : List β}
    (ok : xs.mapM f = .ok ys) {y : β} (member : y ∈ ys) : ∃ x ∈ xs, f x = .ok y := by
  induction xs generalizing ys with
  | nil =>
    cases ok
    cases member
  | cons x rest ih =>
    rw [List.mapM_cons] at ok
    obtain ⟨z, first, ok⟩ := Except.bind_eq_ok_iff.mp ok
    obtain ⟨zs, later, same⟩ := Except.bind_eq_ok_iff.mp ok
    cases same
    rcases List.mem_cons.mp member with rfl | among
    · exact ⟨x, List.mem_cons_self, first⟩
    · obtain ⟨x', member', found⟩ := ih later among
      exact ⟨x', List.mem_cons_of_mem x member', found⟩

theorem mapM_eq_ok_map {f : α → Except ε β} {g : α → β} {xs : List α}
    (each : ∀ x ∈ xs, f x = .ok (g x)) : xs.mapM f = .ok (xs.map g) := by
  induction xs with
  | nil => rfl
  | cons x rest ih =>
    obtain ⟨first, later⟩ := List.forall_mem_cons.mp each
    rw [List.mapM_cons, first, ih later]
    rfl

theorem mapM_eq_ok_iff [Inhabited β] {f : α → Except ε β} {xs : List α} {ys : List β} :
    xs.mapM f = .ok ys ↔ ∃ g : α → β, (∀ x ∈ xs, f x = .ok (g x)) ∧ ys = xs.map g := by
  constructor
  · intro ok
    -- The values can be chosen by item, since an item that occurs twice has one outcome.
    refine ⟨fun x => (f x).toOption.getD default, ?_⟩
    induction xs generalizing ys with
    | nil =>
      cases ok
      simp
    | cons x rest ih =>
      rw [List.mapM_cons] at ok
      obtain ⟨y, first, ok⟩ := Except.bind_eq_ok_iff.mp ok
      obtain ⟨later, others, same⟩ := Except.bind_eq_ok_iff.mp ok
      cases same
      obtain ⟨each, rfl⟩ := ih others
      simpa [first, Except.toOption] using each
  · rintro ⟨g, each, rfl⟩
    exact mapM_eq_ok_map each

theorem exists_mapM_eq_ok_iff {f : α → Except ε β} {xs : List α} :
    (∃ ys, xs.mapM f = .ok ys) ↔ ∀ x ∈ xs, ∃ y, f x = .ok y := by
  induction xs with
  | nil => simpa using ⟨[], rfl⟩
  | cons x rest ih =>
    rw [List.forall_mem_cons, ← ih, List.mapM_cons]
    constructor
    · rintro ⟨ys, ok⟩
      obtain ⟨y, first, ok⟩ := Except.bind_eq_ok_iff.mp ok
      obtain ⟨later, others, -⟩ := Except.bind_eq_ok_iff.mp ok
      exact ⟨⟨y, first⟩, later, others⟩
    · rintro ⟨⟨y, first⟩, later, others⟩
      exact ⟨y :: later, by rw [first, others]; rfl⟩

theorem mapM_concat_eq_ok_iff {f : α → Except ε β} {xs : List α} {x : α} {ys : List β} :
    (xs ++ [x]).mapM f = .ok ys ↔
      ∃ before y, xs.mapM f = .ok before ∧ f x = .ok y ∧ ys = before ++ [y] := by
  rw [List.mapM_append]
  constructor
  · intro ok
    obtain ⟨before, first, ok⟩ := Except.bind_eq_ok_iff.mp ok
    obtain ⟨last, later, same⟩ := Except.bind_eq_ok_iff.mp ok
    cases same
    rw [List.mapM_cons] at later
    obtain ⟨y, found, done⟩ := Except.bind_eq_ok_iff.mp later
    cases done
    exact ⟨before, y, first, found, rfl⟩
  · rintro ⟨before, y, first, found, rfl⟩
    simp [first, found, bind, Except.bind, pure, Except.pure]

end

/-- Steps that may give nothing, taken one by one. -/
theorem mapM_eq_some_iff_forall₂ {α β : Type} {f : α → Option β} {xs : List α} {ys : List β} :
    xs.mapM f = some ys ↔ List.Forall₂ (fun x y => f x = some y) xs ys := by
  induction xs generalizing ys with
  | nil => simp [eq_comm]
  | cons x rest ih =>
    rw [List.forall₂_cons_left_iff, List.mapM_cons]
    simp only [← ih, Option.bind_eq_bind, Option.bind_eq_some_iff, Option.pure_def,
      Option.some_inj]
    constructor
    · rintro ⟨y, first, later, others, rfl⟩
      exact ⟨y, later, first, others, rfl⟩
    · rintro ⟨y, later, first, others, rfl⟩
      exact ⟨y, first, later, others, rfl⟩

theorem mem_of_mapM_eq_some {α β : Type} {f : α → Option β} {xs : List α} {ys : List β}
    (ok : xs.mapM f = some ys) {y : β} (member : y ∈ ys) : ∃ x ∈ xs, f x = some y := by
  rw [mapM_eq_some_iff_forall₂] at ok
  induction ok with
  | nil => cases member
  | @cons x _ xs _ first _ ih =>
    rcases List.mem_cons.mp member with rfl | among
    · exact ⟨x, List.mem_cons_self, first⟩
    · obtain ⟨x', member', found⟩ := ih among
      exact ⟨x', List.mem_cons_of_mem x member', found⟩

end BeanMeter
