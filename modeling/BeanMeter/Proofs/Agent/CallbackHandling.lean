import BeanMeter.Agent.Challenge
import Mathlib.Data.List.Forall2

/-! # Callbacks that are filled in

A handler fills in callbacks one after the other and stops at the first that it cannot answer, so
that a list may be left filled in only in part. What is put into a callback does not depend on what
was written there before.

* `CallbackHandler.Fills` — the configured identity put into one callback.
* `CallbackHandler.Handled` — a list that is filled in up to a callback that cannot be answered.
* `CallbackHandler.handle_eq_iff` — handling a list leaves it like this, and in no other way.
* `CallbackHandler.handle_exact` — the result of handling a list, what it changes and what it keeps.
-/

namespace BeanMeter

/-- What a callback asks, with the realm that is offered but without what is written in it. -/
def Callback.asked : Callback → Callback
  | .name _ => .name none
  | .password _ => .password none
  | .realm offered _ => .realm offered none
  | .other kind => .other kind

namespace CallbackHandler

variable {h : CallbackHandler}

/-! ## One callback -/

/-- The configured identity put into a callback, whatever was written there. The offered realm
stands in for a realm that is not configured. What is missing leaves the callback empty. -/
inductive Fills (h : CallbackHandler) : Callback → Callback → Prop
  | name (old : Option String) : h.Fills (.name old) (.name h.username)
  | password (old : Option String) : h.Fills (.password old) (.password h.password)
  | configuredRealm {realm : String} (configured : h.realm = some realm)
      (offered old : Option String) : h.Fills (.realm offered old) (.realm offered (some realm))
  | offeredRealm (missing : h.realm = none) (offered old : Option String) :
      h.Fills (.realm offered old) (.realm offered offered)

theorem answer?_eq_some_iff {c filled : Callback} :
    h.answer? c = some filled ↔ h.Fills c filled := by
  constructor
  · intro answer
    cases c with
    | name old =>
      cases answer
      exact .name old
    | password old =>
      cases answer
      exact .password old
    | realm offered old =>
      cases answer
      cases realm : h.realm with
      | none => exact .offeredRealm realm offered old
      | some text => exact .configuredRealm realm offered old
    | other kind => cases answer
  · intro fills
    cases fills with
    | name | password => rfl
    | configuredRealm configured => simp [answer?, configured]
    | offeredRealm missing => simp [answer?, missing]

theorem fills_or_other (h : CallbackHandler) (c : Callback) :
    (∃ filled, h.Fills c filled) ∨ ∃ kind, c = .other kind := by
  cases answer : h.answer? c with
  | some filled => exact .inl ⟨filled, answer?_eq_some_iff.mp answer⟩
  | none =>
    cases c with
    | name | password | realm => cases answer
    | other kind => exact .inr ⟨kind, rfl⟩

/-- What is put into a callback does not depend on what is already there. -/
theorem Fills.again {c filled : Callback} (fills : h.Fills c filled) : h.Fills filled filled := by
  cases fills with
  | name => exact .name _
  | password => exact .password _
  | configuredRealm configured => exact .configuredRealm configured _ _
  | offeredRealm missing => exact .offeredRealm missing _ _

theorem Fills.asked_eq {c filled : Callback} (fills : h.Fills c filled) :
    filled.asked = c.asked := by
  cases fills <;> rfl

/-! ## Lists of callbacks -/

theorem handle_cons {c filled : Callback} (fills : h.Fills c filled) (cs : List Callback) :
    h.handle (c :: cs) = ((h.handle cs).1, filled :: (h.handle cs).2) := by
  have answer := answer?_eq_some_iff.mpr fills
  cases c with
  | name | password | realm => simp [handle, answer]
  | other kind => cases answer

/-- A first part that can be answered is filled in, and handling goes on with the rest. -/
theorem handle_append {before filled : List Callback} (fills : List.Forall₂ h.Fills before filled)
    (rest : List Callback) :
    h.handle (before ++ rest) = ((h.handle rest).1, filled ++ (h.handle rest).2) := by
  induction fills with
  | nil => rfl
  | cons first _ ih => rw [List.cons_append, handle_cons first, ih, List.cons_append]

theorem handle_of_head? {rest : List Callback} {failed : Option String}
    (stop : rest.head? = failed.map .other) : h.handle rest = (failed, rest) := by
  cases failed with
  | none =>
    rw [List.head?_eq_none_iff.mp stop]
    rfl
  | some kind =>
    obtain ⟨after, rfl⟩ := List.head?_eq_some_iff.mp stop
    rfl

theorem exists_fills {before : List Callback} (clear : ∀ kind, .other kind ∉ before) :
    ∃ filled, List.Forall₂ h.Fills before filled := by
  induction before with
  | nil => exact ⟨[], .nil⟩
  | cons c cs ih =>
    obtain ⟨filled, fills⟩ := ih fun kind member => clear kind (List.mem_cons_of_mem _ member)
    rcases h.fills_or_other c with ⟨first, firstFills⟩ | ⟨kind, rfl⟩
    · exact ⟨first :: filled, .cons firstFills fills⟩
    · exact absurd List.mem_cons_self (clear kind)

theorem not_mem_of_fills {before filled : List Callback}
    (fills : List.Forall₂ h.Fills before filled) (kind : String) : .other kind ∉ before := by
  induction fills with
  | nil => exact List.not_mem_nil
  | cons first _ ih =>
    rintro (_ | ⟨_, member⟩)
    · cases first
    · exact ih member

/-- How a list of callbacks is left: a first part is filled in, and the rest is as it was. There is
a rest exactly if a callback cannot be answered, and it starts with that callback. -/
def Handled (h : CallbackHandler) (cs : List Callback) (failed : Option String)
    (left : List Callback) : Prop :=
  ∃ answered filled rest, cs = answered ++ rest ∧ left = filled ++ rest ∧
    List.Forall₂ h.Fills answered filled ∧ rest.head? = failed.map .other

theorem handled_handle (h : CallbackHandler) (cs : List Callback) :
    h.Handled cs (h.handle cs).1 (h.handle cs).2 := by
  induction cs with
  | nil => exact ⟨[], [], [], rfl, rfl, .nil, rfl⟩
  | cons c cs ih =>
    rcases h.fills_or_other c with ⟨first, firstFills⟩ | ⟨kind, rfl⟩
    · obtain ⟨answered, filled, rest, parts, left, fills, stop⟩ := ih
      rw [handle_cons firstFills]
      exact ⟨c :: answered, first :: filled, rest, congrArg _ parts, congrArg _ left,
        .cons firstFills fills, stop⟩
    · exact ⟨[], [], .other kind :: cs, rfl, rfl, .nil, rfl⟩

variable {cs left : List Callback} {failed : Option String}

theorem handle_eq_iff : h.handle cs = (failed, left) ↔ h.Handled cs failed left := by
  constructor
  · intro handled
    have own := h.handled_handle cs
    rwa [handled] at own
  · rintro ⟨answered, filled, rest, rfl, rfl, fills, stop⟩
    rw [handle_append fills, handle_of_head? stop]

namespace Handled

/-- A list that was filled in is filled in with the same again. -/
theorem again (handled : h.Handled cs failed left) : h.Handled left failed left := by
  obtain ⟨answered, filled, rest, -, rfl, fills, stop⟩ := handled
  have same : List.Forall₂ h.Fills filled filled := by
    induction fills with
    | nil => exact .nil
    | cons first _ ih => exact .cons first.again ih
  exact ⟨filled, filled, rest, rfl, rfl, same, stop⟩

theorem map_asked_eq (handled : h.Handled cs failed left) :
    left.map Callback.asked = cs.map Callback.asked := by
  obtain ⟨answered, filled, rest, rfl, rfl, fills, -⟩ := handled
  have same : filled.map Callback.asked = answered.map Callback.asked := by
    induction fills with
    | nil => rfl
    | cons first _ ih => rw [List.map_cons, List.map_cons, first.asked_eq, ih]
  rw [List.map_append, List.map_append, same]

theorem failed_eq_some_iff (handled : h.Handled cs failed left) {kind : String} :
    failed = some kind ↔ ∃ before after, cs = before ++ .other kind :: after ∧
      ∀ earlier, .other earlier ∉ before := by
  constructor
  · rintro rfl
    obtain ⟨answered, filled, rest, rfl, -, fills, stop⟩ := handled
    obtain ⟨after, rfl⟩ := List.head?_eq_some_iff.mp stop
    exact ⟨answered, after, rfl, not_mem_of_fills fills⟩
  · rintro ⟨before, after, rfl, clear⟩
    -- Handling leaves a list in one way only, so it has stopped at this callback.
    obtain ⟨filled, fills⟩ := exists_fills (h := h) clear
    have own : h.Handled _ (some kind) _ :=
      ⟨before, filled, .other kind :: after, rfl, rfl, fills, rfl⟩
    have same := (handle_eq_iff.mpr handled).symm.trans (handle_eq_iff.mpr own)
    exact congrArg Prod.fst same

theorem failed_eq_none_iff (handled : h.Handled cs failed left) :
    failed = none ↔ ∀ kind, .other kind ∉ cs := by
  obtain ⟨answered, filled, rest, rfl, -, fills, stop⟩ := handled
  cases failed with
  | none =>
    rw [List.head?_eq_none_iff.mp stop, List.append_nil]
    exact iff_of_true rfl (not_mem_of_fills fills)
  | some kind =>
    obtain ⟨after, rfl⟩ := List.head?_eq_some_iff.mp stop
    refine iff_of_false nofun fun clear => clear kind ?_
    exact List.mem_append_right _ List.mem_cons_self

end Handled

/-- Handling succeeds if every callback can be answered, and otherwise gives the first that cannot.
The callbacks before it are filled in, it and those after it are left alone, and what is asked stays
the same. Handling what is left changes nothing any more. -/
theorem handle_exact (h : CallbackHandler) (cs : List Callback) :
    let failed := (h.handle cs).1
    let left := (h.handle cs).2
    (failed = none ↔ ∀ kind, .other kind ∉ cs) ∧
    (∀ kind, failed = some kind ↔ ∃ before after, cs = before ++ .other kind :: after ∧
      ∀ earlier, .other earlier ∉ before) ∧
    h.Handled cs failed left ∧
    left.map Callback.asked = cs.map Callback.asked ∧
    h.handle left = (failed, left) := by
  intro failed left
  have handled : h.Handled cs failed left := h.handled_handle cs
  exact ⟨handled.failed_eq_none_iff, fun kind => handled.failed_eq_some_iff, handled,
    handled.map_asked_eq, handle_eq_iff.mpr handled.again⟩

/-- What was written before the failure is gone, what was written after it is still there. -/
example : (CallbackHandler.mk none (some "secret") none).handle
    [.name (some "old"), .realm (some "corp") (some "old"), .other "Digest challenge",
      .password (some "old"), .other "second factor"] =
    (some "Digest challenge", [.name none, .realm (some "corp") (some "corp"),
      .other "Digest challenge", .password (some "old"), .other "second factor"]) := rfl

end CallbackHandler

end BeanMeter
