import BeanMeter.Json.Document

/-! # JSON records

Objects with known fields. A record may also be written as an array of its fields in order, where
the last ones may be missing. In an object the fields come in any order, unknown ones are passed
over without being given a meaning, and a known one must not occur twice.

* `Record` — the fields of a record that are present, as documents.
* `Record.ofDocument?` — the fields of an object or array.
-/

namespace BeanMeter.Json

/-- The present fields of a record, by name. -/
structure Record where
  fields : List (String × Document)
  deriving Repr

namespace Record

/-- The document of a field. -/
def get? (r : Record) (name : String) : Option Document :=
  (r.fields.find? fun f => f.1 == name).map (·.2)

/-- The known fields of an object; none if a key is no text or a known field occurs twice. -/
def ofFields? (names : List String) (seen : Record) :
    List (List StringPiece × Document) → Option Record
  | [] => some seen
  | (k, d) :: rest =>
    match Document.stringOf? k with
    | none => none
    | some key =>
      if names.contains key then
        if (seen.get? key).isSome then none else ofFields? names ⟨(key, d) :: seen.fields⟩ rest
      else ofFields? names seen rest

/-- The fields of a record with the given field names. -/
def ofDocument? (names : List String) : Document → Option Record
  | .object fields => ofFields? names ⟨[]⟩ fields
  | .array items => if items.length ≤ names.length then some ⟨names.zip items⟩ else none
  | _ => none

/-- The value of a field that may be absent or null, nested in `depth` fewer containers than are
allowed; the outer option fails if the document has no such value. -/
def optional? (r : Record) (depth : Nat) (name : String) (read : Json → Option α) :
    Option (Option α) :=
  match r.get? name with
  | none | some .null => some none
  | some d => (d.value? depth).bind fun v => (read v).map some

/-- The value of a field, or a default where it is absent. -/
def defaulted? (r : Record) (depth : Nat) (name : String) (default : α) (read : Json → Option α) :
    Option α :=
  match r.get? name with
  | none => some default
  | some d => (d.value? depth).bind read

/-- The value of a field that must be present. -/
def required? (r : Record) (depth : Nat) (name : String) (read : Json → Option α) : Option α :=
  (r.get? name).bind fun d => (d.value? depth).bind read

end Record

end BeanMeter.Json
