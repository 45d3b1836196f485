import BeanMeter.Mapping.Registry
import BeanMeter.Proofs.Agent.Decoding
import BeanMeter.Proofs.Json.ObjectKeys
import BeanMeter.Proofs.Text.Separators

/-! # Placeholders never become data

An attribute that the agent could not read is neither stored nor observed, and does not keep those
next to it from being stored.

* `AttributeValue.IsFault` — the placeholders; they hold no number, no label and no items.
* `Registry.observe_readable` — observations do not depend on them.
* `Response.ListsAttributes` — entries that deliver every attribute on its own.
* `Registry.placeholders_never_data` — both layers together.
-/

namespace BeanMeter

/-! ## What a placeholder holds -/

/-- No number begins with the letter of a placeholder. -/
theorem readBinary64?_letter (cs : List Char) : readBinary64? ('E' :: cs) = none := by
  simp [readBinary64?, readUnsigned?, readDecimal?, isDigit]

namespace AttributeValue

/-- The placeholder for an attribute that the agent could not read. -/
def IsFault (v : AttributeValue) : Prop := ∃ reason, v = .text ("ERROR: " ++ reason)

variable {v : AttributeValue}

theorem isFault_iff : v.isFault = true ↔ v.IsFault := by
  cases v with
  | text s => simpa [IsFault, Json.IsFault, ofJson] using isFault_ofJson_iff (v := .str s)
  | null | flag | integer | real | array | composite => simp [isFault, IsFault]

theorem number?_of_isFault (fault : v.IsFault) : v.number? = none := by
  obtain ⟨reason, rfl⟩ := fault
  have start : ("ERROR: " ++ reason).toList =
      [] ++ 'E' :: ("RROR: ".toList ++ reason.toList) := by simp
  rw [number?, start, Text.trimChars_append_cons (by decide)]
  exact readBinary64?_letter _

theorem label?_of_isFault (fault : v.IsFault) : v.label? = none := by
  have marked := isFault_iff.mpr fault
  obtain ⟨reason, rfl⟩ := fault
  rw [label?, if_pos marked]

theorem item?_of_isFault (fault : v.IsFault) (key : String) : v.item? key = none := by
  obtain ⟨reason, rfl⟩ := fault
  rfl

end AttributeValue

/-! ## Observations -/

/-- The results without the attributes that could not be read. -/
def ReadResults.readable (results : ReadResults) : ReadResults where
  beans := results.beans.mapValues fun _ attributes => attributes.filter fun _ v => !v.isFault

theorem bind_filter_eq {α β : Type} {p : α → Bool} {f : α → Option β} {found : Option α}
    (nothing : ∀ a, p a = false → f a = none) : (found.filter p).bind f = found.bind f := by
  cases found with
  | none => rfl
  | some a =>
    cases kept : p a with
    | true => simp [Option.filter, kept]
    | false => simp [Option.filter, kept, nothing a kept]

namespace AttributeMapping

variable {attributes : Attributes}

theorem value?_readable (m : AttributeMapping) :
    m.value? (attributes.filter fun _ v => !v.isFault) = m.value? attributes := by
  rw [value?, value?, SortedMap.get?_filter]
  apply bind_filter_eq
  intro v dropped
  have fault : v.IsFault := AttributeValue.isFault_iff.mp (by simpa using dropped)
  cases m.subKey with
  | none => exact AttributeValue.number?_of_isFault fault
  | some key =>
    dsimp only
    rw [AttributeValue.item?_of_isFault fault]
    rfl

theorem labelValue?_readable (name : ObjectName) (source : LabelSource) :
    labelValue? name (attributes.filter fun _ v => !v.isFault) source =
      labelValue? name attributes source := by
  cases source with
  | param | const => rfl
  | beanAttr attr =>
    rw [labelValue?, labelValue?, SortedMap.get?_filter]
    apply bind_filter_eq
    intro v dropped
    exact AttributeValue.label?_of_isFault (AttributeValue.isFault_iff.mp (by simpa using dropped))

theorem extract?_readable (m : AttributeMapping) (name : ObjectName) (timestamp : Int) :
    m.extract? name (attributes.filter fun _ v => !v.isFault) timestamp =
      m.extract? name attributes timestamp := by
  have labels : m.labelValues name (attributes.filter fun _ v => !v.isFault) =
      m.labelValues name attributes := by
    simp only [labelValues, labelValue?_readable]
  rw [extract?, extract?, value?_readable, labels]

end AttributeMapping

namespace Registry

theorem namedObjects_readable (results : ReadResults) :
    namedObjects results.readable = (namedObjects results).map fun (name, attributes) =>
      (name, attributes.filter fun _ v => !v.isFault) := by
  simp only [namedObjects, ReadResults.readable, SortedMap.mapValues, List.filterMap_map,
    List.map_filterMap]
  apply List.filterMap_congr
  rintro ⟨text, attributes⟩ _
  cases parsed : ObjectName.parse? text <;> simp [parsed]

theorem observe_readable (r : Registry) (results : ReadResults) (timestamp : Int) :
    r.observe results.readable timestamp = r.observe results timestamp := by
  unfold observe
  rw [namedObjects_readable]
  apply List.flatMap_congr
  intro m _
  rw [List.filterMap_map]
  apply List.filterMap_congr
  rintro ⟨name, attributes⟩ _
  dsimp only [Function.comp]
  rw [AttributeMapping.extract?_readable]

end Registry

/-! ## Entries with many attributes -/

/-- An entry that answers for many objects, or for any number of attributes but one. -/
def Response.ListsAttributes (r : Response) : Prop :=
  ∃ mbean, r.request.mbean = some mbean ∧
    (Wild mbean ∨ (ReadResults.requestedAttributes r.request.attributes).length ≠ 1)

/-- An entry has one value for an attribute of an object. -/
theorem Response.delivers_unique {r : Response} {name attr : String} {v w : Json}
    (keyed : r.Keyed) (first : r.Delivers name attr v) (second : r.Delivers name attr w) :
    v = w := by
  cases first with
  | concrete success echo single value field =>
    rw [delivers_concrete_iff success echo single value] at second
    exact (keyed _ value).field_unique field second.2
  | matched success echo many value object field =>
    obtain ⟨others, also, other⟩ :=
      (delivers_matched_iff success echo many value).mp second
    have same := (keyed _ value).field_unique object also
    cases same
    cases keyed _ value with
    | obj _ each => exact (each _ object).field_unique field other

namespace ReadResults

variable {r : Response} {name attr : String} {v : Json}

theorem deliveriesOfConcrete_of_length {attributes : List String}
    (several : attributes.length ≠ 1) (name : String) (value : Json) :
    deliveriesOfConcrete name attributes value = deliveriesOfObject name value := by
  match attributes, several with
  | [_], several => exact absurd rfl several
  | [], _ | _ :: _ :: _, _ => rfl

theorem mem_deliveries_iff_delivers (lists : r.ListsAttributes) :
    ⟨name, attr, v⟩ ∈ deliveries r ↔ r.Delivers name attr v := by
  obtain ⟨mbean, echo, several⟩ := lists
  have pattern {value : Json} (success : r.status = 200) (held : r.value = some value)
      (many : Wild mbean) : deliveries r = deliveriesOfPattern value := by
    simp [deliveries, echo, held, success, isNamePattern_iff.mpr many]
  have object {value : Json} (success : r.status = 200) (held : r.value = some value)
      (single : ¬ Wild mbean) : deliveries r = deliveriesOfObject mbean value := by
    rw [← deliveriesOfConcrete_of_length (several.resolve_left single)]
    rw [← isNamePattern_iff] at single
    simp [deliveries, echo, held, success, single]
  constructor
  · intro member
    have success : r.status = 200 := by
      by_contra failure
      rw [deliveries_of_failure failure] at member
      cases member
    cases held : r.value with
    | none => simp [deliveries, held] at member
    | some value =>
      by_cases many : Wild mbean
      · rw [pattern success held many] at member
        cases value with
        | obj objects =>
          obtain ⟨fields, among, field⟩ := mem_deliveriesOfPattern_iff.mp member
          exact .matched success echo many held among field
        | null | bool | int | real | str | arr => cases member
      · rw [object success held many] at member
        obtain ⟨rfl, fields, rfl, field⟩ := mem_deliveriesOfObject_iff.mp member
        exact .concrete success echo many held field
  · intro delivers
    cases delivers with
    | concrete success named single held field =>
      rw [echo] at named
      cases named
      rw [object success held single]
      exact mem_deliveriesOfObject_iff.mpr ⟨rfl, _, rfl, field⟩
    | matched success named many held among field =>
      rw [echo] at named
      cases named
      rw [pattern success held many]
      exact mem_deliveriesOfPattern_iff.mpr ⟨_, among, field⟩

theorem not_isFault_of_found {responses : List Response} {v : AttributeValue}
    (found : (ofResponses responses).attribute? name attr = some v) : ¬ v.IsFault := by
  obtain ⟨d, -, ⟨-, -, readable⟩, rfl⟩ := exists_of_attribute?_foldl found
  rwa [← AttributeValue.isFault_iff, AttributeValue.isFault_ofJson_iff]

/-- An entry with many attributes delivers each of them, whatever became of the others. -/
theorem attribute?_of_delivers {before later : List Response} (keyed : r.Keyed)
    (lists : r.ListsAttributes) (delivers : r.Delivers name attr v) (readable : ¬ v.IsFault)
    (rest : DeliversNoOther later name attr (.ofJson v)) :
    (ofResponses (before ++ r :: later)).attribute? name attr = some (.ofJson v) := by
  have given : ⟨name, attr, v⟩ ∈ deliveries r := (mem_deliveries_iff_delivers lists).mpr delivers
  apply attribute?_ofResponses_of_gives ⟨_, given, rfl, rfl, readable⟩ _ rest
  rintro ⟨_, _, w⟩ member ⟨rfl, rfl, -⟩
  have also := (mem_deliveries_iff_delivers lists).mp member
  rw [Response.delivers_unique keyed also delivers]

end ReadResults

/-- Placeholders never become data: observations do not depend on those that are among the results
of a read, none is stored as the value of an attribute, and none keeps another attribute of an entry
with many attributes from being stored. -/
theorem Registry.placeholders_never_data :
    (∀ (r : Registry) (results : ReadResults) (timestamp : Int),
      r.observe results.readable timestamp = r.observe results timestamp) ∧
    (∀ responses name attr v,
      (ReadResults.ofResponses responses).attribute? name attr = some v → ¬ v.IsFault) ∧
    (∀ (before : List Response) (r : Response) (later : List Response) (name attr : String)
      (v : Json), r.Keyed → r.ListsAttributes → r.Delivers name attr v → ¬ v.IsFault →
      ReadResults.DeliversNoOther later name attr (.ofJson v) →
      (ReadResults.ofResponses (before ++ r :: later)).attribute? name attr = some (.ofJson v)) :=
  ⟨Registry.observe_readable, fun _ _ _ _ => ReadResults.not_isFault_of_found,
    fun _ _ _ _ _ _ => ReadResults.attribute?_of_delivers⟩

namespace Registry.Sample

/-- An entry for many objects in which one of two attributes could not be read. -/
def partly : Response :=
  ⟨⟨some "java.lang:type=*", some (.arr [.str "Count", .str "Broken"]), some "read"⟩,
    some (.obj [("java.lang:type=Memory",
      .obj [("Broken", .str "ERROR: denied"), ("Count", .int 5)])]), 200, 0, none, none⟩

theorem wild : Wild "java.lang:type=*" :=
  isNamePattern_iff.mp (by decide)

theorem partly_keyed : partly.Keyed := by
  intro value held
  cases held
  refine .obj (by simp) ?_
  simp only [List.mem_singleton, forall_eq]
  refine .obj (by simp) ?_
  simp [Json.Keyed.str, Json.Keyed.int]

theorem partly_lists : partly.ListsAttributes := ⟨_, rfl, .inl wild⟩

theorem partly_delivers : partly.Delivers "java.lang:type=Memory" "Count" (.int 5) :=
  .matched rfl rfl wild rfl List.mem_cons_self (by simp)

end Registry.Sample

theorem Registry.sample_placeholders :
    Sample.partly.Keyed ∧ Sample.partly.ListsAttributes ∧
      Sample.partly.Delivers "java.lang:type=Memory" "Count" (.int 5) ∧
      ReadResults.DeliversNoOther [] "java.lang:type=Memory" "Count" (.ofJson (.int 5)) ∧
      (ReadResults.ofResponses [Sample.partly]).attribute? "java.lang:type=Memory" "Count" =
        some (.integer 5) ∧
      (ReadResults.ofResponses [Sample.partly]).attribute? "java.lang:type=Memory" "Broken" =
        none := by
  have readable : ¬ (Json.int 5).IsFault := by simp [Json.IsFault]
  have rest : ReadResults.DeliversNoOther [] "java.lang:type=Memory" "Count"
      (.ofJson (.int 5)) := by
    simp [ReadResults.DeliversNoOther]
  obtain ⟨-, -, stored⟩ := placeholders_never_data
  exact ⟨Sample.partly_keyed, Sample.partly_lists, Sample.partly_delivers, rest,
    stored [] _ [] _ _ _ Sample.partly_keyed Sample.partly_lists Sample.partly_delivers readable
      rest, rfl⟩

end BeanMeter
