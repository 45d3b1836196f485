import BeanMeter.Json.Number
import BeanMeter.Mapping.Registry
import BeanMeter.Proofs.Agent.Deliveries
import BeanMeter.Proofs.Exposition.Lines
import BeanMeter.Proofs.Number.Exactness

/-! # Whole numbers from the agent to the exposition

A whole number that the agent reports becomes a double on the way and is written again at the end.
With at most 15 digits it is the same number that is written, digit for digit.

* `Json.IsWhole` — the JSON values that are a whole number.
* `Json.NumberText.value?_isWhole` — how whole numbers are written in JSON.
* `Json.Holds` — what a mapping looks at in the value of its attribute.
* `Registry.whole_number_exposed` — the value in the line of a sample.
-/

namespace BeanMeter

/-! ## Whole numbers in JSON -/

namespace Json

/-- A number that is whole, whether it is held as such or as a double. -/
def IsWhole (v : Json) (n : Int) : Prop := v = .int n ∨ ∃ x, v = .real x ∧ x.toInt? = some n

namespace NumberText

/-- The whole number before the point. -/
def wholeValue (t : NumberText) : Int :=
  if t.negative then -(ofDigits t.whole : Int) else ofDigits t.whole

theorem le_foldDigits (n : Nat) (ds : List Char) : n ≤ foldDigits n ds := by
  induction ds generalizing n with
  | nil => exact Nat.le_refl n
  | cons d ds ih =>
    have step : n ≤ 10 * n + digitValue d := by omega
    exact step.trans (ih _)

/-- Digits are left over only where the number is too large. -/
theorem takeDigits_eq {n : Nat} {ds : List Char} (small : foldDigits n ds ≤ maxSignificand) :
    takeDigits n ds = (foldDigits n ds, []) := by
  induction ds generalizing n with
  | nil => rfl
  | cons d ds ih =>
    have next : n * 10 + digitValue d = 10 * n + digitValue d := by omega
    have within := (le_foldDigits (10 * n + digitValue d) ds).trans small
    rw [takeDigits, next, if_neg (by omega)]
    exact ih small

theorem magnitude?_zero {t : NumberText} (plain : t.fraction = none) (bare : t.exponent = none)
    (zero : ofDigits t.whole = 0) : t.magnitude? = some .zero := by
  have digits : takeDigits 0 t.whole = (0, []) := by
    change foldDigits 0 t.whole = 0 at zero
    rw [takeDigits_eq (by simp [zero]), zero]
  have scaled : scale? (.ofNat 0) 0 = some .zero := by decide +kernel
  simp [magnitude?, plain, bare, digits, scaled]

/-- A number without a point and an exponent is read as it is. Zero with a sign is a double to the
reader, but whole nevertheless. -/
theorem value?_isWhole {t : NumberText} (plain : t.fraction = none) (bare : t.exponent = none)
    (small : t.wholeValue.natAbs < 1000000000000000) :
    ∃ v, t.value? = some v ∧ v.IsWhole t.wholeValue := by
  have digits : ofDigits t.whole < 1000000000000000 := by
    rw [wholeValue] at small
    split at small <;> omega
  by_cases signed : t.negative ∧ ofDigits t.whole = 0
  · -- The sign of zero would be lost in a whole number, so the reader goes on to doubles.
    obtain ⟨negative, zero⟩ := signed
    refine ⟨.real (.neg .zero), ?_, .inr ⟨_, rfl, ?_⟩⟩
    · rw [value?, magnitude?_zero plain bare zero]
      simp [negative, zero]
    · rw [wholeValue, if_pos negative, zero]
      decide +kernel
  · have within : ofDigits t.whole ≤ if t.negative then 0x8000000000000000 else maxSignificand := by
      unfold maxSignificand
      split <;> omega
    exact ⟨_, if_pos ⟨plain, bare, within, signed⟩, .inl rfl⟩

end NumberText

/-- What a mapping looks at in the value of its attribute: the value itself, or an item of an object
or an element of an array. -/
inductive Holds (value : Json) : Option String → Json → Prop
  | whole : Holds value none value
  | item {key : String} {item : Json} : value.field? key = some item → Holds value (some key) item
  | element {elements : List Json} {key : String} {i : Nat} {item : Json} :
      value = .arr elements → AttributeValue.index? key = some i → elements[i]? = some item →
      Holds value (some key) item

end Json

/-! ## Values of attributes -/

namespace AttributeValue

variable {value item : Json} {subKey : Option String} {n : Int}

theorem ofJsonItems_eq (vs : List Json) : ofJsonItems vs = vs.map ofJson := by
  induction vs with
  | nil => rfl
  | cons v vs ih => rw [ofJsonItems, ih, List.map_cons]

theorem ofJsonFields_eq (fs : List (String × Json)) :
    ofJsonFields fs = fs.map fun f => (f.1, ofJson f.2) := by
  induction fs with
  | nil => rfl
  | cons f fs ih => rw [ofJsonFields, ih, List.map_cons]

theorem item?_ofJson_of_holds {key : String} (held : value.Holds (some key) item) :
    (ofJson value).item? key = some (ofJson item) := by
  cases held with
  | item found =>
    cases value with
    | obj fields =>
      obtain ⟨field, first, rfl⟩ := Option.map_eq_some_iff.mp found
      have same : (ofJsonFields fields).find? (fun i => i.1 == key) =
          (fields.find? fun f => f.1 == key).map fun f => (f.1, ofJson f.2) := by
        rw [ofJsonFields_eq, List.find?_map]
        rfl
      simp [ofJson, item?, same, first]
    | null | bool | int | real | str | arr => cases found
  | element list index found =>
    subst list
    simp [ofJson, item?, ofJsonItems_eq, index, found]

theorem number?_of_isWhole (whole : item.IsWhole n) (small : n.natAbs < 1000000000000000) :
    ∃ x, (ofJson item).number? = some x ∧ x.toInt? = some n := by
  rcases whole with rfl | ⟨x, rfl, equals⟩
  · refine ⟨.ofInt n, ?_, Binary64.toInt?_ofInt (small.trans Exposition.limit_lt)⟩
    rw [ofJson, if_pos (by omega), number?]
  · exact ⟨x, rfl, equals⟩

end AttributeValue

/-! ## Mappings -/

/-- The last that the agent reports of an attribute of an object, apart from faults. -/
def ReadResults.Reported (responses : List Response) (bean attr : String) (value : Json) : Prop :=
  ∃ before d later, responses.flatMap deliveries = before ++ d :: later ∧ d.Gives bean attr ∧
    d.value = value ∧ ∀ e ∈ later, ¬ e.Gives bean attr

theorem ReadResults.Reported.get?_attributesOf {responses : List Response} {bean attr : String}
    {value : Json} (reported : Reported responses bean attr value) :
    ((ofResponses responses).attributesOf bean).get? attr = some (.ofJson value) := by
  obtain ⟨before, d, later, whole, gives, rfl, others⟩ := reported
  rw [ReadResults.get?_attributesOf, ofResponses, acceptAll, whole]
  exact attribute?_foldl_of_last gives others empty

theorem ReadResults.mem_entries_of_get? {results : ReadResults} {bean attr : String}
    {v : AttributeValue} (found : (results.attributesOf bean).get? attr = some v) :
    (bean, results.attributesOf bean) ∈ results.beans.entries := by
  rw [← SortedMap.get?_eq_some_iff]
  unfold attributesOf at found ⊢
  cases held : results.beans.get? bean with
  | none => simp [held] at found
  | some attributes => rfl

theorem AttributeMapping.value?_of_holds {m : AttributeMapping} {attributes : Attributes}
    {value item : Json} {n : Int}
    (own : attributes.get? m.attr = some (.ofJson value)) (held : value.Holds m.subKey item)
    (whole : item.IsWhole n) (small : n.natAbs < 1000000000000000) :
    ∃ x, m.value? attributes = some x ∧ x.toInt? = some n := by
  obtain ⟨x, number, equals⟩ := AttributeValue.number?_of_isWhole whole small
  refine ⟨x, ?_, equals⟩
  rw [AttributeMapping.value?, own, Option.bind_some]
  cases key : m.subKey with
  | none =>
    rw [key] at held
    cases held
    exact number
  | some key' =>
    rw [key] at held
    dsimp only
    rw [AttributeValue.item?_ofJson_of_holds held, Option.bind_some, number]

namespace Registry

variable {r : Registry} {m : AttributeMapping} {responses : List Response} {bean : String}
  {name : ObjectName} {value item : Json} {n : Int}

theorem mem_observe {results : ReadResults} {attributes : Attributes} {timestamp : Int}
    {o : Observation} (mapped : m ∈ r.mappings) (named : ObjectName.parse? bean = some name)
    (accepted : m.pattern.accepts name) (seen : (bean, attributes) ∈ results.beans.entries)
    (made : m.extract? name attributes timestamp = some o) : o ∈ r.observe results timestamp := by
  refine List.mem_flatMap.mpr ⟨m, mapped, List.mem_filterMap.mpr ⟨(name, attributes), ?_, ?_⟩⟩
  · exact List.mem_filterMap.mpr ⟨(bean, attributes), seen, by simp [named]⟩
  · simpa [accepted] using made

theorem readSample?_of_toInt? {o : Observation} (whole : o.value.toInt? = some n)
    (small : n.natAbs < 1000000000000000) (timestamps : Bool) : ∃ e,
      Exposition.readSample? (Exposition.line timestamps (.ofObservation o)).toList = some e ∧
        e.name = sanitizeName o.name ∧ e.value = toString n := by
  have digits := Exposition.valueText_of_toInt? whole small
  exact ⟨.ofSample timestamps (.ofObservation o),
    Exposition.readSample?_line (Exposition.named_ofObservation o) timestamps, rfl, digits⟩

/-- A whole number of at most 15 digits that the agent reports where a mapping looks for one is
observed, and its sample is written with the digits of the number and nothing else. -/
theorem whole_number_exposed (mapped : m ∈ r.mappings) (named : ObjectName.parse? bean = some name)
    (accepted : m.pattern.accepts name)
    (reported : ReadResults.Reported responses bean m.attr value)
    (held : value.Holds m.subKey item) (whole : item.IsWhole n)
    (small : n.natAbs < 1000000000000000) (timestamp : Int) :
    let results := ReadResults.ofResponses responses
    ∃ o, m.extract? name (results.attributesOf bean) timestamp = some o ∧
      o ∈ r.observe results timestamp ∧
      ∀ timestamps, ∃ e,
        Exposition.readSample? (Exposition.line timestamps (.ofObservation o)).toList = some e ∧
          e.name = sanitizeName m.metric ∧ e.value = toString n := by
  intro results
  have own := reported.get?_attributesOf
  obtain ⟨x, number, equals⟩ := AttributeMapping.value?_of_holds own held whole small
  have made : m.extract? name (results.attributesOf bean) timestamp =
      some ⟨m.metric, m.kind, x, m.labelValues name (results.attributesOf bean), timestamp, m.unit,
        m.description⟩ := by
    rw [AttributeMapping.extract?, number, Option.map_some]
  exact ⟨_, made, mem_observe mapped named accepted (ReadResults.mem_entries_of_get? own) made,
    readSample?_of_toInt? equals small⟩

namespace Whole

/-- A mapping of an item of a composite value. -/
def mapping : AttributeMapping :=
  ⟨⟨"java.lang:type=Memory", "java.lang".toList, [("type", "Memory".toList)], false⟩, "Usage",
    some "used", "jvm.memory.used", none, none, .gauge, [], "rules", 0⟩

def usage : Json := .obj [("used", .int (-123456789012345))]

def echo : RequestEcho :=
  ⟨some "java.lang:type=Memory", some (.arr [.str "Usage"]), some "read"⟩

def replies : List Response :=
  [⟨echo, some (.obj [("Usage", usage)]), 200, 0, none, none⟩]

def object : ObjectName := ⟨"java.lang", .ofList [("type", "Memory")]⟩

end Whole

theorem sample_whole_number :
    ∃ o ∈ Registry.observe ⟨[Whole.mapping]⟩ (.ofResponses Whole.replies) 0, ∃ e,
      Exposition.readSample? (Exposition.line false (.ofObservation o)).toList = some e ∧
        e.name = "jvm_memory_used" ∧ e.value = "-123456789012345" := by
  have reported : ReadResults.Reported Whole.replies "java.lang:type=Memory" "Usage"
      Whole.usage :=
    ⟨[], ⟨"java.lang:type=Memory", "Usage", Whole.usage⟩, [], rfl,
      ⟨rfl, rfl, by simp [Json.IsFault, Whole.usage]⟩, rfl, by simp⟩
  have mapped : Whole.mapping ∈ (Registry.mk [Whole.mapping]).mappings :=
    List.mem_singleton_self _
  have named : ObjectName.parse? "java.lang:type=Memory" = some Whole.object := by decide +kernel
  have held : Whole.usage.Holds Whole.mapping.subKey (.int (-123456789012345)) := .item rfl
  obtain ⟨o, -, observed, shown⟩ := whole_number_exposed mapped named (by decide +kernel)
    reported held (.inl rfl) (by decide) 0
  obtain ⟨e, read, label, value⟩ := shown false
  exact ⟨o, observed, e, read, label.trans (by decide +kernel), value⟩

end Registry

end BeanMeter
