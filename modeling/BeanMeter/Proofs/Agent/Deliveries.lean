import BeanMeter.Agent.ReadResults

/-! # Deliveries

What is left of a sequence of deliveries in the results of a read: of each attribute of each object
the last value that is no placeholder for a fault.

* `Json.IsFault` — the placeholders, as the agent sends them.
* `ReadResults.attribute?_insert` — what recording a value does to the view `attribute?`.
* `ReadResults.attribute?_foldl_accept` — the view of all that has been delivered.
* `ReadResults.attribute?_eq_some_iff` — deliveries that agree all count.
* `ReadResults.attribute?_ofResponses_of_gives` — what one entry among others delivers.
-/

namespace BeanMeter

/-! ## Faults -/

/-- The placeholder for an attribute that the agent could not read. -/
def Json.IsFault (v : Json) : Prop := ∃ reason, v = .str ("ERROR: " ++ reason)

theorem AttributeValue.isFault_ofJson_iff {v : Json} :
    (ofJson v).isFault = true ↔ v.IsFault := by
  cases v with
  | str s =>
    rw [ofJson, isFault, Option.isSome_iff_exists]
    constructor
    · rintro ⟨rest, stripped⟩
      have text := Text.stripStart?_eq_some_iff.mp stripped
      refine ⟨String.ofList rest, congrArg Json.str ?_⟩
      rw [← String.toList_inj, text, String.toList_append]
      exact congrArg (faultMark.toList ++ ·) String.toList_ofList.symm
    · rintro ⟨reason, same⟩
      cases same
      refine ⟨reason.toList, Text.stripStart?_eq_some_iff.mpr ?_⟩
      rw [String.toList_append, faultMark]
  | int n =>
    rw [ofJson]
    split <;> simp [isFault, Json.IsFault]
  | null | bool | real | arr | obj => simp [ofJson, isFault, Json.IsFault]

namespace ReadResults

/-! ## Recording -/

theorem get?_attributesOf (r : ReadResults) (name attr : String) :
    (r.attributesOf name).get? attr = r.attribute? name attr := by
  unfold attributesOf attribute?
  cases r.beans.get? name <;> rfl

@[simp] theorem attribute?_empty (name attr : String) : empty.attribute? name attr = none := rfl

theorem attribute?_insert (r : ReadResults) (name attr : String) (v : AttributeValue)
    (object key : String) :
    (r.insert name attr v).attribute? object key =
      if object = name ∧ key = attr then some v else r.attribute? object key := by
  rw [attribute?, insert, SortedMap.get?_insert]
  by_cases same : object = name
  · subst same
    simp only [if_true, Option.bind_some, SortedMap.get?_insert, get?_attributesOf, true_and]
  · simp [same, attribute?]

/-- A delivery of an attribute of an object that is no placeholder. -/
def Delivery.Gives (name attr : String) (d : Delivery) : Prop :=
  d.name = name ∧ d.attr = attr ∧ ¬ d.value.IsFault

theorem attribute?_accept_of_gives {d : Delivery} {name attr : String} (gives : d.Gives name attr)
    (r : ReadResults) : (r.accept d).attribute? name attr = some (.ofJson d.value) := by
  obtain ⟨rfl, rfl, readable⟩ := gives
  rw [← AttributeValue.isFault_ofJson_iff] at readable
  simp [accept, readable, attribute?_insert]

theorem attribute?_accept_of_not_gives {d : Delivery} {name attr : String}
    (other : ¬ d.Gives name attr) (r : ReadResults) :
    (r.accept d).attribute? name attr = r.attribute? name attr := by
  unfold accept
  dsimp only
  split
  · rfl
  · next readable =>
    rw [AttributeValue.isFault_ofJson_iff] at readable
    rw [attribute?_insert, if_neg]
    rintro ⟨rfl, rfl⟩
    exact other ⟨rfl, rfl, readable⟩

/-! ## The last delivery counts -/

section

variable {ds before later : List Delivery} {d : Delivery} {name attr : String}

theorem attribute?_foldl_of_not_gives (others : ∀ d ∈ ds, ¬ d.Gives name attr)
    (r : ReadResults) : (ds.foldl accept r).attribute? name attr = r.attribute? name attr := by
  induction ds generalizing r with
  | nil => rfl
  | cons d rest ih =>
    rw [List.foldl_cons, ih (fun e member => others e (List.mem_cons_of_mem _ member))]
    exact attribute?_accept_of_not_gives (others d List.mem_cons_self) r

theorem attribute?_foldl_of_last (gives : d.Gives name attr)
    (others : ∀ e ∈ later, ¬ e.Gives name attr) (r : ReadResults) :
    ((before ++ d :: later).foldl accept r).attribute? name attr = some (.ofJson d.value) := by
  rw [List.foldl_append, List.foldl_cons, attribute?_foldl_of_not_gives others]
  exact attribute?_accept_of_gives gives _

/-- Either nothing has been delivered for an attribute, or there is a last delivery of it. -/
theorem exists_last (ds : List Delivery) (name attr : String) :
    (∀ d ∈ ds, ¬ d.Gives name attr) ∨
      ∃ before d later, ds = before ++ d :: later ∧ d.Gives name attr ∧
        ∀ e ∈ later, ¬ e.Gives name attr := by
  induction ds with
  | nil => exact .inl (by simp)
  | cons d rest ih =>
    rcases ih with others | ⟨before, last, later, rfl, gives, others⟩
    · by_cases gives : d.Gives name attr
      · exact .inr ⟨[], d, rest, rfl, gives, others⟩
      · refine .inl fun e member => ?_
        rcases List.mem_cons.mp member with rfl | later
        · exact gives
        · exact others e later
    · exact .inr ⟨d :: before, last, later, rfl, gives, others⟩

theorem attribute?_foldl_of_settled {v : AttributeValue} (given : ∃ d ∈ ds, d.Gives name attr)
    (settled : ∀ d ∈ ds, d.Gives name attr → .ofJson d.value = v) (r : ReadResults) :
    (ds.foldl accept r).attribute? name attr = some v := by
  rcases exists_last ds name attr with others | ⟨before, last, later, rfl, gives, others⟩
  · obtain ⟨d, member, gives⟩ := given
    exact absurd gives (others d member)
  · rw [attribute?_foldl_of_last gives others, settled last (by simp) gives]

/-- What is found has been delivered. -/
theorem exists_of_attribute?_foldl {v : AttributeValue}
    (found : (ds.foldl accept empty).attribute? name attr = some v) :
    ∃ d ∈ ds, d.Gives name attr ∧ v = .ofJson d.value := by
  rcases exists_last ds name attr with others | ⟨before, last, later, rfl, gives, others⟩
  · rw [attribute?_foldl_of_not_gives others, attribute?_empty] at found
    cases found
  · rw [attribute?_foldl_of_last gives others, Option.some.injEq] at found
    exact ⟨last, by simp, gives, found.symm⟩

/-- Deliveries that agree all count. -/
theorem attribute?_eq_some_iff {v : AttributeValue}
    (agree : ∀ d ∈ ds, ∀ e ∈ ds, d.Gives name attr → e.Gives name attr → d.value = e.value) :
    (ds.foldl accept empty).attribute? name attr = some v ↔
      ∃ d ∈ ds, d.Gives name attr ∧ v = .ofJson d.value := by
  rcases exists_last ds name attr with others | ⟨before, last, later, rfl, gives, others⟩
  · rw [attribute?_foldl_of_not_gives others, attribute?_empty]
    constructor
    · intro impossible
      cases impossible
    · rintro ⟨d, member, gives, _⟩
      exact absurd gives (others d member)
  · rw [attribute?_foldl_of_last gives others, Option.some.injEq, eq_comm]
    constructor
    · intro same
      exact ⟨last, by simp, gives, same⟩
    · rintro ⟨d, member, also, rfl⟩
      rw [agree d member last (by simp) also gives]

end

/-! ## One entry among others -/

section

variable {before later : List Response} {r : Response} {name attr : String} {v : AttributeValue}

/-- No entry of a list delivers anything but `v` for an attribute of an object. -/
def DeliversNoOther (entries : List Response) (name attr : String) (v : AttributeValue) : Prop :=
  ∀ r ∈ entries, ∀ d ∈ deliveries r, d.Gives name attr → .ofJson d.value = v

theorem ofResponses_append_cons (before : List Response) (r : Response) (later : List Response) :
    ofResponses (before ++ r :: later) =
      (deliveries r ++ later.flatMap deliveries).foldl accept (ofResponses before) := by
  simp [ofResponses, acceptAll]

/-- The value that an entry delivers is kept unless a later entry delivers another one. -/
theorem attribute?_ofResponses_of_gives (given : ∃ d ∈ deliveries r, d.Gives name attr)
    (own : ∀ d ∈ deliveries r, d.Gives name attr → .ofJson d.value = v)
    (rest : DeliversNoOther later name attr v) :
    (ofResponses (before ++ r :: later)).attribute? name attr = some v := by
  obtain ⟨d, member, gives⟩ := given
  rw [ofResponses_append_cons]
  apply attribute?_foldl_of_settled ⟨d, List.mem_append_left _ member, gives⟩
  intro e among gives
  rcases List.mem_append.mp among with first | after
  · exact own e first gives
  · obtain ⟨s, inLater, inEntry⟩ := List.mem_flatMap.mp after
    exact rest s inLater e inEntry gives

end

end ReadResults

end BeanMeter
