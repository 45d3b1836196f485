import BeanMeter.Agent.AttributeValue
import BeanMeter.Agent.Response
import BeanMeter.Collection.SortedMap

/-! # Read results

The attribute values of all management objects seen in one poll, by object name and attribute.

* `ReadResults.deliveries` — the attribute values that one response delivers.
* `ReadResults.ofResponses` — the results of a bulk read: all deliveries in order, without fault
  placeholders.
* `ReadResults.attribute?` — the value of one attribute of one object.
-/

namespace BeanMeter

/-- Whether an object name stands for many objects. -/
def isNamePattern (name : String) : Bool := name.toList.any fun c => c == '*' || c == '?'

/-- The attributes of one management object. -/
abbrev Attributes := SortedMap String AttributeValue

/-- The attribute values of every management object seen in one poll. -/
structure ReadResults where
  beans : SortedMap String Attributes

namespace ReadResults

/-- Results without any object. -/
def empty : ReadResults := ⟨.empty⟩

instance : Inhabited ReadResults := ⟨empty⟩

/-- The attributes of an object, empty if it was not seen. -/
def attributesOf (r : ReadResults) (name : String) : Attributes := (r.beans.get? name).getD .empty

/-- The value of one attribute of one object. -/
def attribute? (r : ReadResults) (name attr : String) : Option AttributeValue :=
  (r.beans.get? name).bind fun attributes => attributes.get? attr

/-- Records one attribute value. -/
def insert (r : ReadResults) (name attr : String) (v : AttributeValue) : ReadResults :=
  ⟨r.beans.insert name ((r.attributesOf name).insert attr v)⟩

/-- The number of objects. -/
def size (r : ReadResults) : Nat := r.beans.size

/-- Whether no object was seen. -/
def isEmpty (r : ReadResults) : Bool := r.beans.isEmpty

/-! ## Decoding responses -/

/-- One attribute value as delivered by a response. -/
structure Delivery where
  name : String
  attr : String
  value : Json
  deriving Repr, Inhabited

/-- The attributes that a response answers for: one given as a text, or those texts of an array. -/
def requestedAttributes : Option Json → List String
  | some (.str s) => [s]
  | some (.arr items) => items.filterMap Json.text?
  | _ => []

/-- The entries of an object value, each delivered as an attribute of one object. -/
def deliveriesOfObject (name : String) : Json → List Delivery
  | .obj fields => fields.map fun f => ⟨name, f.1, f.2⟩
  | _ => []

/-- What the value of a pattern read delivers: an object of objects, by object name. -/
def deliveriesOfPattern : Json → List Delivery
  | .obj objects => objects.flatMap fun o => deliveriesOfObject o.1 o.2
  | _ => []

/-- What the value of a read of one object delivers. A single requested attribute is either the
only entry of an object or the value itself; otherwise the value is an object of attributes. -/
def deliveriesOfConcrete (name : String) (attributes : List String) (value : Json) :
    List Delivery :=
  match attributes, value with
  -- Agents wrap a single attribute or not, and a value may itself be an object of one entry.
  | [single], .obj [(key, v)] => if key = single then [⟨name, key, v⟩] else [⟨name, single, value⟩]
  | [single], value => [⟨name, single, value⟩]
  | _, value => deliveriesOfObject name value

/-- The attribute values that a response delivers: none if it names no object, failed, or has no
value. -/
def deliveries (r : Response) : List Delivery :=
  match r.request.mbean, r.value with
  | some mbean, some value =>
    if r.status ≠ 200 then []
    else if isNamePattern mbean then deliveriesOfPattern value
    else deliveriesOfConcrete mbean (requestedAttributes r.request.attributes) value
  | _, _ => []

/-- Records a delivery unless it is a fault placeholder. -/
def accept (r : ReadResults) (d : Delivery) : ReadResults :=
  let v := AttributeValue.ofJson d.value
  if v.isFault then r else r.insert d.name d.attr v

/-- Records all deliveries of a list of responses, after those already there. -/
def acceptAll (r : ReadResults) (responses : List Response) : ReadResults :=
  (responses.flatMap deliveries).foldl accept r

/-- The results of a bulk read. -/
def ofResponses (responses : List Response) : ReadResults := empty.acceptAll responses

end ReadResults

end BeanMeter
