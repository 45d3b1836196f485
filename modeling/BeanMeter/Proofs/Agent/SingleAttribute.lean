import BeanMeter.Proofs.Agent.Decoding

/-! # Entries for a single attribute

An entry that answers for one attribute of one object, which its echo names by a text, delivers its
value as it is. Only an object whose one item is named like the attribute is taken for a value in a
wrapping, and its item for the value.

* `ReadResults.deliveries_of_text` — what such an entry delivers.
* `ReadResults.single_attribute_stored` — what is left of it in the results.
-/

namespace BeanMeter

/-- An entry of status 200 for one object that echoes one attribute as a text. -/
structure Response.AnswersText (r : Response) (mbean attr : String) (v : Json) : Prop where
  success : r.status = 200
  echo : r.request.mbean = some mbean
  single : ¬ Wild mbean
  asked : r.request.attributes = some (.str attr)
  value : r.value = some v

namespace ReadResults

variable {r : Response} {mbean attr : String} {v w : Json}

theorem deliveries_of_text (answers : r.AnswersText mbean attr v) :
    deliveries r = deliveriesOfConcrete mbean [attr] v := by
  have concrete : isNamePattern mbean = false :=
    Bool.eq_false_iff.mpr (isNamePattern_iff.not.mpr answers.single)
  simp [deliveries, answers.echo, answers.value, answers.success, concrete, answers.asked,
    requestedAttributes]

theorem deliveriesOfConcrete_wrapped (mbean attr : String) (w : Json) :
    deliveriesOfConcrete mbean [attr] (.obj [(attr, w)]) = [⟨mbean, attr, w⟩] := by
  simp [deliveriesOfConcrete]

theorem deliveriesOfConcrete_bare (mbean : String) (bare : ∀ w, v ≠ .obj [(attr, w)]) :
    deliveriesOfConcrete mbean [attr] v = [⟨mbean, attr, v⟩] := by
  cases v with
  | obj fields =>
    match fields, bare with
    | [(key, w)], bare =>
      have other : key ≠ attr := fun same => bare w (by rw [same])
      simp [deliveriesOfConcrete, other]
    | [], _ | _ :: _ :: _, _ => rfl
  | null | bool | int | real | str | arr => rfl

/-- The value of an entry for a single attribute is stored as it was sent, unless it is an object
whose one item is named like the attribute: then that item is stored, or nothing if it is a
placeholder. -/
theorem single_attribute_stored (before later : List Response)
    (answers : r.AnswersText mbean attr v) :
    ((∀ w, v ≠ .obj [(attr, w)]) → ¬ v.IsFault →
      DeliversNoOther later mbean attr (.ofJson v) →
      (ofResponses (before ++ r :: later)).attribute? mbean attr = some (.ofJson v)) ∧
    (∀ w, v = .obj [(attr, w)] →
      (¬ w.IsFault → DeliversNoOther later mbean attr (.ofJson w) →
        (ofResponses (before ++ r :: later)).attribute? mbean attr = some (.ofJson w)) ∧
      (w.IsFault →
        ofResponses (before ++ r :: later) = ofResponses (before ++ later))) := by
  have stored {u : Json} (delivers : deliveries r = [⟨mbean, attr, u⟩]) (readable : ¬ u.IsFault)
      (rest : DeliversNoOther later mbean attr (.ofJson u)) :
      (ofResponses (before ++ r :: later)).attribute? mbean attr = some (.ofJson u) := by
    have given : (⟨mbean, attr, u⟩ : Delivery) ∈ deliveries r := by simp [delivers]
    apply attribute?_ofResponses_of_gives ⟨_, given, rfl, rfl, readable⟩ _ rest
    simp [delivers]
  constructor
  · intro bare readable
    have delivers := deliveries_of_text answers
    rw [deliveriesOfConcrete_bare mbean bare] at delivers
    exact stored delivers readable
  · rintro w rfl
    have delivers := deliveries_of_text answers
    rw [deliveriesOfConcrete_wrapped] at delivers
    refine ⟨stored delivers, fun fault => ?_⟩
    rw [← AttributeValue.isFault_ofJson_iff] at fault
    simp [ofResponses, acceptAll, delivers, accept, fault]

namespace Sample

/-- An entry that echoes its attribute as a text. -/
def text (v : Json) : Response :=
  ⟨⟨some "java.lang:type=Memory", some (.str "Usage"), some "read"⟩, some v, 200, 0, none, none⟩

theorem text_answers (v : Json) : (text v).AnswersText "java.lang:type=Memory" "Usage" v :=
  ⟨rfl, rfl, by decide, rfl, rfl⟩

/-- A composite value with one item, which is not named like its attribute. -/
def used : Json := .obj [("used", .int 5)]

end Sample

theorem sample_single_attribute :
    (Sample.text Sample.used).AnswersText "java.lang:type=Memory" "Usage" Sample.used ∧
      (∀ w, Sample.used ≠ .obj [("Usage", w)]) ∧ ¬ Sample.used.IsFault ∧
      DeliversNoOther [] "java.lang:type=Memory" "Usage" (.ofJson Sample.used) ∧
      (ofResponses [Sample.text Sample.used]).attribute? "java.lang:type=Memory" "Usage" =
        some (.composite [("used", .integer 5)]) := by
  have answers := Sample.text_answers Sample.used
  have bare : ∀ w, Sample.used ≠ .obj [("Usage", w)] := by simp [Sample.used]
  have readable : ¬ Sample.used.IsFault := by simp [Json.IsFault, Sample.used]
  have rest : DeliversNoOther [] "java.lang:type=Memory" "Usage" (.ofJson Sample.used) := by
    simp [DeliversNoOther]
  obtain ⟨stored, -⟩ := single_attribute_stored [] [] answers
  exact ⟨answers, bare, readable, rest, stored bare readable rest⟩

/-- The composite value of an attribute is taken apart if its one item is named like the
attribute. -/
theorem sample_unwrapped :
    (Sample.text Sample.usage).AnswersText "java.lang:type=Memory" "Usage" Sample.usage ∧
      Sample.usage ≠ .null ∧ ¬ Sample.usage.IsFault ∧
      (ofResponses [Sample.text Sample.usage]).attribute? "java.lang:type=Memory" "Usage" =
        some (.integer 5) ∧
      (ofResponses [Sample.text Sample.usage]).attribute? "java.lang:type=Memory" "Usage" ≠
        some (.ofJson Sample.usage) := by
  have found : (ofResponses [Sample.text Sample.usage]).attribute? "java.lang:type=Memory"
      "Usage" = some (.integer 5) := rfl
  refine ⟨Sample.text_answers _, ?_, ?_, found, ?_⟩
  · simp [Sample.usage]
  · simp [Json.IsFault, Sample.usage]
  · rw [found]
    simp [Sample.usage, AttributeValue.ofJson]

end ReadResults

end BeanMeter
