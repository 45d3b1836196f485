import BeanMeter.Agent.Response
import BeanMeter.Proofs.Collection.Entries
import BeanMeter.Proofs.Outcome

/-! # Keys of objects

In a JSON value that is read from a text the keys of every object differ: of several entries with
one key only the last is kept.

* `Json.Keyed` — the values whose objects are of that kind.
* `Json.Document.keyed_of_value?` — every value of a document is one.
* `Response.keyed_of_parseBulk?` — so are the values that an agent delivers.
-/

namespace BeanMeter

namespace Json

/-- Values in which the keys of every object differ. -/
inductive Keyed : Json → Prop
  | null : Keyed .null
  | bool (b : Bool) : Keyed (.bool b)
  | int (n : Int) : Keyed (.int n)
  | real (x : Binary64) : Keyed (.real x)
  | str (s : String) : Keyed (.str s)
  | arr {items : List Json} (each : ∀ v ∈ items, Keyed v) : Keyed (.arr items)
  | obj {fields : List (String × Json)} (distinct : (fields.map (·.1)).Nodup)
      (each : ∀ f ∈ fields, Keyed f.2) : Keyed (.obj fields)

theorem Keyed.field_unique {fields : List (String × Json)} {key : String} {v w : Json}
    (keyed : Keyed (.obj fields)) (first : (key, v) ∈ fields) (second : (key, w) ∈ fields) :
    v = w := by
  cases keyed with
  | obj distinct =>
    have same := List.inj_on_of_nodup_map distinct first second rfl
    exact congrArg Prod.snd same

theorem NumberText.keyed_of_value? {n : NumberText} {v : Json} (read : n.value? = some v) :
    Keyed v := by
  rw [value?] at read
  generalize (if n.negative = true then -(ofDigits n.whole : Int) else ofDigits n.whole) = m at read
  generalize (if n.negative = true then 0x8000000000000000 else maxSignificand) = limit at read
  split at read
  · cases read
    exact .int _
  · obtain ⟨x, -, rfl⟩ := Option.map_eq_some_iff.mp read
    exact .real _

namespace Document

mutual

theorem keyed_of_value? {depth : Nat} {d : Document} {v : Json}
    (read : value? depth d = some v) : Keyed v := by
  cases d with
  | null =>
    cases read
    exact .null
  | bool b =>
    cases read
    exact .bool b
  | number n => exact NumberText.keyed_of_value? read
  | string pieces =>
    obtain ⟨s, -, rfl⟩ := Option.map_eq_some_iff.mp read
    exact .str s
  | array items =>
    obtain ⟨-, read⟩ := Option.ite_none_left_eq_some.mp read
    obtain ⟨vs, each, rfl⟩ := Option.map_eq_some_iff.mp read
    exact .arr (keyed_of_values? each)
  | object fields =>
    obtain ⟨-, read⟩ := Option.ite_none_left_eq_some.mp read
    obtain ⟨fs, each, rfl⟩ := Option.map_eq_some_iff.mp read
    exact .obj (SortedMap.ofList fs).keys_nodup fun f member =>
      keyed_of_fieldValues? each f (SortedMap.mem_of_mem_ofList member)

theorem keyed_of_values? {depth : Nat} {ds : List Document} {vs : List Json}
    (read : values? depth ds = some vs) : ∀ v ∈ vs, Keyed v := by
  cases ds with
  | nil =>
    cases read
    simp
  | cons d ds =>
    rw [values?] at read
    split at read
    · next first others =>
      cases read
      exact List.forall_mem_cons.mpr ⟨keyed_of_value? first, keyed_of_values? others⟩
    · cases read

theorem keyed_of_fieldValues? {depth : Nat} {fields : List (List StringPiece × Document)}
    {fs : List (String × Json)} (read : fieldValues? depth fields = some fs) :
    ∀ f ∈ fs, Keyed f.2 := by
  cases fields with
  | nil =>
    cases read
    simp
  | cons field fields =>
    obtain ⟨k, d⟩ := field
    rw [fieldValues?] at read
    split at read
    · next first others =>
      cases read
      exact List.forall_mem_cons.mpr ⟨keyed_of_value? first, keyed_of_fieldValues? others⟩
    · cases read

end

end Document

end Json

namespace Response

/-- The value of an entry, if it has one, has objects with different keys only. -/
def Keyed (r : Response) : Prop := ∀ v, r.value = some v → v.Keyed

theorem value_of_ofDocument? {depth : Nat} {d : Json.Document} {r : Response}
    (read : ofDocument? depth d = some r) :
    ∃ fields : Json.Record, fields.optional? depth "value" some = some r.value := by
  obtain ⟨fields, -, read⟩ := Option.bind_eq_some_iff.mp read
  -- Whether the echo is there makes no difference to the value.
  split at read
  all_goals
    obtain ⟨echo, -, read⟩ := Option.bind_eq_some_iff.mp read
    obtain ⟨value, held, read⟩ := Option.bind_eq_some_iff.mp read
    simp only [Option.bind_eq_bind, Option.bind_eq_some_iff] at read
    obtain ⟨status, -, timestamp, -, error, -, kind, -, same⟩ := read
    cases same
    exact ⟨fields, held⟩

theorem keyed_of_ofDocument? {depth : Nat} {d : Json.Document} {r : Response}
    (read : ofDocument? depth d = some r) : r.Keyed := by
  intro v own
  obtain ⟨fields, held⟩ := value_of_ofDocument? read
  rw [own] at held
  unfold Json.Record.optional? at held
  split at held
  · cases held
  · cases held
  · obtain ⟨w, whole, same⟩ := Option.bind_eq_some_iff.mp held
    cases same
    exact Json.Document.keyed_of_value? whole

theorem keyed_of_parseBulk? {body : String} {responses : List Response}
    (read : parseBulk? body = some responses) : ∀ r ∈ responses, r.Keyed := by
  unfold parseBulk? at read
  split at read
  · intro r member
    obtain ⟨d, -, own⟩ := mem_of_mapM_eq_some read member
    exact keyed_of_ofDocument? own
  · cases read

end Response

end BeanMeter
