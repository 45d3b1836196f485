import BeanMeter.Agent.Exchange
import BeanMeter.Proofs.Agent.Deliveries
import Mathlib.Data.List.Forall2

/-! # Decoding answers

An agent that answers the requests of a bulk read one by one is understood exactly: what its
entries deliver is found in the results, and nothing else is.

* `Response.Delivers` — what an entry delivers, read as the agent has meant it.
* `Response.Answers` — an entry that answers a request.
* `ReadResults.mem_deliveries_iff` — the shape of an answer is never mistaken.
* `ReadResults.decodes_answers` — the results of a whole answer.
-/

namespace BeanMeter

/-! ## What an agent answers -/

/-- A name that stands for many objects. -/
def Wild (name : String) : Prop := '*' ∈ name.toList ∨ '?' ∈ name.toList

theorem isNamePattern_iff {name : String} : isNamePattern name = true ↔ Wild name := by
  simp only [isNamePattern, List.any_eq_true, Bool.or_eq_true, beq_iff_eq, Wild]
  constructor
  · rintro ⟨c, member, rfl | rfl⟩
    · exact .inl member
    · exact .inr member
  · rintro (member | member)
    · exact ⟨_, member, .inl rfl⟩
    · exact ⟨_, member, .inr rfl⟩

/-- What an entry of status 200 delivers: an object of attributes, or an object of such objects by
name if it answers for many. -/
inductive Response.Delivers (r : Response) : String → String → Json → Prop
  | concrete {mbean attr : String} {v : Json} {fields : List (String × Json)}
      (success : r.status = 200) (echo : r.request.mbean = some mbean) (single : ¬ Wild mbean)
      (value : r.value = some (.obj fields)) (field : (attr, v) ∈ fields) :
      Delivers r mbean attr v
  | matched {mbean name attr : String} {v : Json} {objects : List (String × Json)}
      {fields : List (String × Json)}
      (success : r.status = 200) (echo : r.request.mbean = some mbean) (many : Wild mbean)
      (value : r.value = some (.obj objects)) (object : (name, .obj fields) ∈ objects)
      (field : (attr, v) ∈ fields) :
      Delivers r name attr v

section

variable {r : Response} {mbean name attr : String} {v : Json}

theorem Response.success_of_delivers (delivers : r.Delivers name attr v) : r.status = 200 := by
  cases delivers with
  | concrete success | matched success => exact success

theorem Response.delivers_concrete_iff {fields : List (String × Json)} (success : r.status = 200)
    (echo : r.request.mbean = some mbean) (single : ¬ Wild mbean)
    (value : r.value = some (.obj fields)) :
    r.Delivers name attr v ↔ name = mbean ∧ (attr, v) ∈ fields := by
  constructor
  · intro delivers
    cases delivers with
    | concrete _ named _ same field =>
      rw [echo] at named
      rw [value] at same
      cases named
      cases same
      exact ⟨rfl, field⟩
    | matched _ named many =>
      rw [echo] at named
      cases named
      exact absurd many single
  · rintro ⟨rfl, field⟩
    exact .concrete success echo single value field

theorem Response.delivers_matched_iff {objects : List (String × Json)} (success : r.status = 200)
    (echo : r.request.mbean = some mbean) (many : Wild mbean)
    (value : r.value = some (.obj objects)) :
    r.Delivers name attr v ↔ ∃ fields, (name, .obj fields) ∈ objects ∧ (attr, v) ∈ fields := by
  constructor
  · intro delivers
    cases delivers with
    | concrete _ named single =>
      rw [echo] at named
      cases named
      exact absurd many single
    | matched _ _ _ same object field =>
      rw [value] at same
      cases same
      exact ⟨_, object, field⟩
  · rintro ⟨fields, object, field⟩
    exact .matched success echo many value object field

end

/-- An object with exactly the requested attributes, each with its value, or with a placeholder if
it could not be read. -/
structure HoldsExactly (assigned : String → Json) (attributes : List String)
    (fields : List (String × Json)) : Prop where
  distinct : (fields.map (·.1)).Nodup
  requested : ∀ attr, attr ∈ fields.map (·.1) ↔ attr ∈ attributes
  values : ∀ attr v, (attr, v) ∈ fields → v = assigned attr ∨ v.IsFault

/-- An entry answers a request where the attributes have the assigned values. -/
structure Response.Answers (assigned : String → String → Json) (request : ReadRequest)
    (r : Response) : Prop where
  mbean : r.request.mbean = some request.mbean
  attributes : r.request.attributes = some (.arr (request.attributes.map .str))
  concrete : r.status = 200 → ¬ Wild request.mbean → ∃ fields, r.value = some (.obj fields) ∧
    HoldsExactly (assigned request.mbean) request.attributes fields
  matched : r.status = 200 → Wild request.mbean → ∃ objects, r.value = some (.obj objects) ∧
    ∀ name v, (name, v) ∈ objects → ∃ fields, v = .obj fields ∧
      HoldsExactly (assigned name) request.attributes fields

/-! ## Telling the shapes apart -/

theorem HoldsExactly.eq_singleton {assigned : String → Json} {single : String}
    {fields : List (String × Json)} (holds : HoldsExactly assigned [single] fields) :
    ∃ v, fields = [(single, v)] := by
  have keys : ∀ key ∈ fields.map (·.1), key = single := by
    intro key member
    exact List.mem_singleton.mp ((holds.requested key).mp member)
  have present : single ∈ fields.map (·.1) := (holds.requested single).mpr List.mem_cons_self
  match fields, holds.distinct, keys, present with
  | [(key, v)], _, keys, _ =>
    obtain rfl : key = single := keys key (by simp)
    exact ⟨v, rfl⟩
  | (first, _) :: (second, _) :: rest, distinct, keys, _ =>
    have same : first = second := by rw [keys first (by simp), keys second (by simp)]
    simp [same] at distinct

namespace ReadResults

theorem requestedAttributes_echo (attributes : List String) :
    requestedAttributes (some (.arr (attributes.map .str))) = attributes := by
  simp [requestedAttributes, List.filterMap_map, Function.comp_def, Json.text?]

theorem mem_deliveriesOfObject_iff {name : String} {value : Json} {d : Delivery} :
    d ∈ deliveriesOfObject name value ↔
      d.name = name ∧ ∃ fields, value = .obj fields ∧ (d.attr, d.value) ∈ fields := by
  unfold deliveriesOfObject
  cases value with
  | obj fields =>
    simp only [List.mem_map, Json.obj.injEq, exists_eq_left']
    constructor
    · rintro ⟨field, member, rfl⟩
      exact ⟨rfl, member⟩
    · rintro ⟨rfl, member⟩
      exact ⟨_, member, rfl⟩
  | null | bool | int | real | str | arr => simp

theorem mem_deliveriesOfPattern_iff {objects : List (String × Json)} {d : Delivery} :
    d ∈ deliveriesOfPattern (.obj objects) ↔
      ∃ fields, (d.name, .obj fields) ∈ objects ∧ (d.attr, d.value) ∈ fields := by
  simp only [deliveriesOfPattern, List.mem_flatMap, mem_deliveriesOfObject_iff]
  constructor
  · rintro ⟨⟨name, value⟩, object, rfl, fields, rfl, field⟩
    exact ⟨fields, object, field⟩
  · rintro ⟨fields, object, field⟩
    exact ⟨_, object, rfl, fields, rfl, field⟩

/-- A single attribute is not taken for the value of one: an object with exactly the requested
attributes is read field by field. -/
theorem deliveriesOfConcrete_eq {assigned : String → Json} {attributes : List String}
    {fields : List (String × Json)} (holds : HoldsExactly assigned attributes fields)
    (name : String) :
    deliveriesOfConcrete name attributes (.obj fields) = deliveriesOfObject name (.obj fields) := by
  match attributes, holds with
  | [single], holds =>
    obtain ⟨v, rfl⟩ := holds.eq_singleton
    simp [deliveriesOfConcrete, deliveriesOfObject]
  | [], _ | _ :: _ :: _, _ => rfl

section

variable {assigned : String → String → Json} {request : ReadRequest} {r : Response}

theorem deliveries_of_failure (failure : r.status ≠ 200) : deliveries r = [] := by
  unfold deliveries
  split
  · rw [if_pos failure]
  · rfl

theorem deliveries_eq_pattern {objects : List (String × Json)} (success : r.status = 200)
    (echo : r.request.mbean = some request.mbean) (value : r.value = some (.obj objects))
    (many : Wild request.mbean) : deliveries r = deliveriesOfPattern (.obj objects) := by
  simp [deliveries, echo, value, success, isNamePattern_iff.mpr many]

theorem deliveries_eq_concrete {fields : List (String × Json)} (success : r.status = 200)
    (answers : r.Answers assigned request) (value : r.value = some (.obj fields))
    (single : ¬ Wild request.mbean)
    (holds : HoldsExactly (assigned request.mbean) request.attributes fields) :
    deliveries r = deliveriesOfObject request.mbean (.obj fields) := by
  rw [← isNamePattern_iff] at single
  rw [← deliveriesOfConcrete_eq holds]
  simp [deliveries, answers.mbean, answers.attributes, requestedAttributes_echo, value, success,
    single]

/-- The shape of an answer is never mistaken. -/
theorem mem_deliveries_iff (answers : r.Answers assigned request) {name attr : String}
    {v : Json} : ⟨name, attr, v⟩ ∈ deliveries r ↔ r.Delivers name attr v := by
  by_cases success : r.status = 200
  · by_cases many : Wild request.mbean
    · obtain ⟨objects, value, _⟩ := answers.matched success many
      rw [deliveries_eq_pattern success answers.mbean value many,
        Response.delivers_matched_iff success answers.mbean many value]
      exact mem_deliveriesOfPattern_iff
    · obtain ⟨fields, value, holds⟩ := answers.concrete success many
      rw [deliveries_eq_concrete success answers value many holds,
        Response.delivers_concrete_iff success answers.mbean many value]
      simp [mem_deliveriesOfObject_iff]
  · rw [deliveries_of_failure success]
    constructor
    · intro impossible
      cases impossible
    · intro delivers
      exact absurd (Response.success_of_delivers delivers) success

/-- Whatever is delivered of an attribute is its value, or the placeholder. -/
theorem assigned_or_fault_of_delivers (answers : r.Answers assigned request)
    {name attr : String} {v : Json} (delivers : r.Delivers name attr v) :
    v = assigned name attr ∨ v.IsFault := by
  have success := Response.success_of_delivers delivers
  by_cases many : Wild request.mbean
  · obtain ⟨objects, value, holds⟩ := answers.matched success many
    obtain ⟨fields, object, field⟩ :=
      (Response.delivers_matched_iff success answers.mbean many value).mp delivers
    obtain ⟨_, same, exactly⟩ := holds name _ object
    cases same
    exact exactly.values attr v field
  · obtain ⟨fields, value, holds⟩ := answers.concrete success many
    obtain ⟨rfl, field⟩ :=
      (Response.delivers_concrete_iff success answers.mbean many value).mp delivers
    exact holds.values attr v field

theorem exists_request {requests : List ReadRequest} {responses : List Response}
    (answers : List.Forall₂ (Response.Answers assigned) requests responses) :
    ∀ r ∈ responses, ∃ request, Response.Answers assigned request r := by
  induction answers with
  | nil => simp
  | @cons request r _ _ first _ ih =>
    intro other member
    rcases List.mem_cons.mp member with rfl | later
    · exact ⟨request, first⟩
    · exact ih other later

theorem mem_flatMap_deliveries_iff {requests : List ReadRequest} {responses : List Response}
    (answers : List.Forall₂ (Response.Answers assigned) requests responses)
    {name attr : String} {v : Json} :
    ⟨name, attr, v⟩ ∈ responses.flatMap deliveries ↔ ∃ r ∈ responses, r.Delivers name attr v := by
  rw [List.mem_flatMap]
  constructor
  · rintro ⟨r, member, among⟩
    obtain ⟨request, answered⟩ := exists_request answers r member
    exact ⟨r, member, (mem_deliveries_iff answered).mp among⟩
  · rintro ⟨r, member, delivers⟩
    obtain ⟨request, answered⟩ := exists_request answers r member
    exact ⟨r, member, (mem_deliveries_iff answered).mpr delivers⟩

end

/-- The results of the answer to a bulk read hold an attribute of an object exactly if some entry
has delivered a value for it, whatever that value is, and no placeholder. -/
theorem decodes_answers (assigned : String → String → Json) {requests : List ReadRequest}
    {responses : List Response}
    (answers : List.Forall₂ (Response.Answers assigned) requests responses)
    (name attr : String) (v : AttributeValue) :
    (ofResponses responses).attribute? name attr = some v ↔
      ∃ r ∈ responses, ∃ value, r.Delivers name attr value ∧ ¬ value.IsFault ∧
        v = .ofJson value := by
  have settled : ∀ d ∈ responses.flatMap deliveries, d.Gives name attr →
      d.value = assigned name attr := by
    rintro ⟨_, _, value⟩ member ⟨rfl, rfl, readable⟩
    obtain ⟨r, among, delivers⟩ := (mem_flatMap_deliveries_iff answers).mp member
    obtain ⟨request, answered⟩ := exists_request answers r among
    exact (assigned_or_fault_of_delivers answered delivers).resolve_right readable
  have agree : ∀ d ∈ responses.flatMap deliveries, ∀ e ∈ responses.flatMap deliveries,
      d.Gives name attr → e.Gives name attr → d.value = e.value := by
    intro d member e also gives givesToo
    rw [settled d member gives, settled e also givesToo]
  rw [ofResponses, acceptAll, attribute?_eq_some_iff agree]
  constructor
  · rintro ⟨⟨_, _, value⟩, member, ⟨rfl, rfl, readable⟩, same⟩
    obtain ⟨r, among, delivers⟩ := (mem_flatMap_deliveries_iff answers).mp member
    exact ⟨r, among, value, delivers, readable, same⟩
  · rintro ⟨r, among, value, delivers, readable, same⟩
    have member := (mem_flatMap_deliveries_iff answers).mpr ⟨r, among, delivers⟩
    exact ⟨_, member, ⟨rfl, rfl, readable⟩, same⟩

namespace Sample

/-- A composite value with one item, which is named like its attribute. -/
def usage : Json := .obj [("Usage", .int 5)]

def assigned (_ attr : String) : Json :=
  if attr = "Usage" then usage else .str "ERROR: denied"

/-- Two requests that cover one object, and a request for an object that is not there. -/
def requests : List ReadRequest :=
  [⟨"java.lang:type=Memory", ["Usage"]⟩, ⟨"java.lang:type=*", ["Usage", "Verbose"]⟩,
    ⟨"java.lang:type=Gone", ["Usage"]⟩]

def echo (request : ReadRequest) : RequestEcho :=
  ⟨some request.mbean, some (.arr (request.attributes.map .str)), some "read"⟩

def responses : List Response :=
  [⟨echo ⟨"java.lang:type=Memory", ["Usage"]⟩, some (.obj [("Usage", usage)]), 200, 0, none, none⟩,
    ⟨echo ⟨"java.lang:type=*", ["Usage", "Verbose"]⟩,
      some (.obj [("java.lang:type=Memory",
        .obj [("Usage", usage), ("Verbose", .str "ERROR: denied")])]), 200, 0, none, none⟩,
    ⟨echo ⟨"java.lang:type=Gone", ["Usage"]⟩, none, 404, 0, some "gone", none⟩]

instance (name : String) : Decidable (Wild name) := inferInstanceAs (Decidable (_ ∨ _))

theorem holds_usage (name : String) :
    HoldsExactly (assigned name) ["Usage"] [("Usage", usage)] where
  distinct := by decide
  requested := by simp
  values := by simp [assigned]

theorem holds_both (name : String) :
    HoldsExactly (assigned name) ["Usage", "Verbose"]
      [("Usage", usage), ("Verbose", .str "ERROR: denied")] where
  distinct := by decide
  requested := by simp
  values := by
    intro attr v field
    simp only [List.mem_cons, Prod.mk.injEq, List.not_mem_nil, or_false] at field
    rcases field with ⟨rfl, rfl⟩ | ⟨rfl, rfl⟩
    · exact .inl rfl
    · exact .inr ⟨"denied", rfl⟩

theorem answers : List.Forall₂ (Response.Answers assigned) requests responses := by
  refine .cons ⟨rfl, rfl, ?_, ?_⟩ (.cons ⟨rfl, rfl, ?_, ?_⟩ (.cons ⟨rfl, rfl, ?_, ?_⟩ .nil))
  · exact fun _ _ => ⟨_, rfl, holds_usage _⟩
  · exact fun _ many => absurd many (by decide)
  · exact fun _ single => absurd (.inl (by decide)) single
  · intro _ _
    refine ⟨_, rfl, ?_⟩
    intro name v object
    obtain ⟨rfl, rfl⟩ : name = "java.lang:type=Memory" ∧ v = _ := by simpa using object
    exact ⟨_, rfl, holds_both _⟩
  · exact fun success => absurd success (by decide)
  · exact fun success => absurd success (by decide)

end Sample

/-- The composite value is not taken apart, though it is an object with one entry. -/
theorem sample_decodes :
    List.Forall₂ (Response.Answers Sample.assigned) Sample.requests Sample.responses ∧
      (ofResponses Sample.responses).attribute? "java.lang:type=Memory" "Usage" =
        some (.composite [("Usage", .integer 5)]) ∧
      ((ofResponses Sample.responses).attribute? "java.lang:type=Memory" "Verbose").isNone := by
  refine ⟨Sample.answers, (decodes_answers Sample.assigned Sample.answers _ _ _).mpr ?_,
    by decide +kernel⟩
  refine ⟨_, List.mem_cons_self, Sample.usage, ?_, ?_, rfl⟩
  · exact .concrete rfl rfl (by decide) rfl List.mem_cons_self
  · rintro ⟨_, impossible⟩
    cases impossible

end ReadResults

end BeanMeter
