import BeanMeter.Naming.ObjectName
import BeanMeter.Proofs.Collection.Entries
import BeanMeter.Proofs.Outcome

/-! # Writing object names

How to write a name with any properties so that it is read back, in whatever order they are. A
value may hold commas, colons and equals signs if it is quoted; the quotes then belong to it.

* `QuoteMode.Passes` — texts in which the reader of a property list finds no separator.
* `splitUnquoted_append_cons` — the comma after such a text separates.
* `ObjectName.WrittenProperty` — keys and values that can be written.
* `ObjectName.parse?_written` — a written name is read back.
-/

namespace BeanMeter

/-! ## Texts without separators -/

/-- The reader of a property list gets from one mode into another through a text in which no comma
separates. -/
inductive QuoteMode.Passes : QuoteMode → List Char → QuoteMode → Prop
  | nil (mode : QuoteMode) : Passes mode [] mode
  | cons {mode last : QuoteMode} {c : Char} {cs : List Char}
      (inPart : ¬ (mode = .outside ∧ c = ',')) (rest : Passes (mode.next c) cs last) :
      Passes mode (c :: cs) last

namespace QuoteMode.Passes

variable {first second third : QuoteMode} {cs ds : List Char}

theorem append (before : Passes first cs second) (after : Passes second ds third) :
    Passes first (cs ++ ds) third := by
  induction before with
  | nil => exact after
  | cons inPart _ ih => exact .cons inPart (ih after)

/-- Outside quotes only commas and quotes mean something. -/
theorem outside (clear : ∀ c ∈ cs, c ≠ ',' ∧ c ≠ '"') : Passes .outside cs .outside := by
  induction cs with
  | nil => exact .nil _
  | cons c cs ih =>
    obtain ⟨⟨notComma, notQuote⟩, others⟩ := List.forall_mem_cons.mp clear
    refine .cons (by simp [notComma]) ?_
    rw [next, if_neg notQuote]
    exact ih others

end QuoteMode.Passes

section

variable {mode last : QuoteMode} {part rest : List Char}

theorem splitUnquoted_append_cons (passes : mode.Passes part .outside) :
    splitUnquoted mode (part ++ ',' :: rest) = part :: splitUnquoted .outside rest := by
  generalize ends : QuoteMode.outside = last at passes
  induction passes with
  | nil =>
    subst ends
    simp [splitUnquoted]
  | cons inPart _ ih => rw [List.cons_append, splitUnquoted, if_neg inPart, ih ends]

theorem splitUnquoted_eq_singleton (passes : mode.Passes part last) :
    splitUnquoted mode part = [part] := by
  induction passes with
  | nil => rfl
  | cons inPart _ ih => rw [splitUnquoted, if_neg inPart, ih]

theorem splitUnquoted_intercalate {parts : List (List Char)} (some : parts ≠ [])
    (passes : ∀ part ∈ parts, QuoteMode.Passes .outside part .outside) :
    splitUnquoted .outside ([','].intercalate parts) = parts := by
  induction parts with
  | nil => contradiction
  | cons part parts ih =>
    obtain ⟨own, others⟩ := List.forall_mem_cons.mp passes
    cases parts with
    | nil => rw [List.intercalate_singleton, splitUnquoted_eq_singleton own]
    | cons next parts =>
      rw [List.intercalate_cons_cons, List.append_assoc, List.singleton_append,
        splitUnquoted_append_cons own, ih (by simp) others]

end

namespace ObjectName

/-! ## The written form -/

/-- The text between the quotes of a value: a quote or a backslash in it is written after a
backslash. -/
inductive QuotedBody : List Char → Prop
  | nil : QuotedBody []
  | char {c : Char} {cs : List Char} (notQuote : c ≠ '"') (notEscape : c ≠ '\\')
      (rest : QuotedBody cs) : QuotedBody (c :: cs)
  | escaped (c : Char) {cs : List Char} (rest : QuotedBody cs) : QuotedBody ('\\' :: c :: cs)

/-- A value as it can stand in a name. -/
inductive WrittenValue : List Char → Prop
  | plain {value : List Char} (clear : ∀ c ∈ value, c ≠ ',' ∧ c ≠ '"') : WrittenValue value
  | quoted {body : List Char} (inner : QuotedBody body) : WrittenValue ('"' :: (body ++ ['"']))

/-- A property as it can stand in a name. -/
structure WrittenProperty (property : String × String) : Prop where
  key : ∀ c ∈ property.1.toList, c ≠ '=' ∧ c ≠ ',' ∧ c ≠ '"'
  trimmed : Text.trim property.1 = property.1
  value : WrittenValue property.2.toList

/-- The text of one property. -/
def propertyText (property : String × String) : String := property.1 ++ "=" ++ property.2

/-- The text of a name with the properties in a given order. -/
def text (domain : String) (properties : List (String × String)) : String :=
  domain ++ ":" ++ ",".intercalate (properties.map propertyText)

/-! ## Reading -/

variable {domain : String} {property : String × String} {properties : List (String × String)}

theorem toList_propertyText :
    (propertyText property).toList = property.1.toList ++ '=' :: property.2.toList := by
  simp [propertyText]

theorem QuotedBody.passes {body : List Char} (inner : QuotedBody body) :
    QuoteMode.Passes .inside body .inside := by
  induction inner with
  | nil => exact .nil _
  | char notQuote notEscape _ ih =>
    refine .cons (by simp) ?_
    rw [QuoteMode.next, if_neg notEscape, if_neg notQuote]
    exact ih
  | escaped c _ ih => exact .cons (by simp) (.cons (by simp [QuoteMode.next]) ih)

theorem WrittenValue.passes {value : List Char} (written : WrittenValue value) :
    QuoteMode.Passes .outside value .outside := by
  cases written with
  | plain clear => exact .outside clear
  | quoted inner =>
    -- The first quote opens what the last one closes.
    exact .cons (by simp) (inner.passes.append (.cons (by simp) (.nil _)))

theorem WrittenProperty.passes (written : WrittenProperty property) :
    QuoteMode.Passes .outside (propertyText property).toList .outside := by
  have key : QuoteMode.Passes .outside property.1.toList .outside :=
    .outside fun c member => (written.key c member).2
  rw [toList_propertyText]
  exact key.append (.cons (by simp) written.value.passes)

theorem WrittenProperty.readProperty?_eq (written : WrittenProperty property) :
    readProperty? (propertyText property).toList = some property := by
  have cut : '=' ∉ property.1.toList := fun member => (written.key '=' member).1 rfl
  have trimmed : String.ofList (Text.trimChars property.1.toList) = property.1 := written.trimmed
  rw [readProperty?, toList_propertyText, Text.splitFirst?_eq_some_iff.mpr ⟨rfl, cut⟩]
  simp [trimmed]

theorem splitProperties_written (written : ∀ property ∈ properties, WrittenProperty property) :
    splitProperties (",".intercalate (properties.map propertyText)).toList =
      properties.map fun property => (propertyText property).toList := by
  cases properties with
  | nil => rfl
  | cons first others =>
    have passes : ∀ part ∈ (first :: others).map fun property => (propertyText property).toList,
        QuoteMode.Passes .outside part .outside := by
      rw [List.forall_mem_map]
      exact fun property member => (written property member).passes
    have whole := splitUnquoted_intercalate (by simp) passes
    rw [splitProperties, String.toList_intercalate, List.map_map]
    -- No part is blank: each has an equals sign.
    rw [Function.comp_def, show ",".toList = [','] from rfl, whole, List.filter_eq_self,
      List.forall_mem_map]
    intro property _
    simp only [toList_propertyText, List.all_append, List.all_cons]
    rw [show Text.isBlank '=' = false from rfl]
    simp

theorem parse?_text_eq (clear : ':' ∉ domain.toList)
    (written : ∀ property ∈ properties, WrittenProperty property) :
    parse? (text domain properties) = some ⟨domain, SortedMap.ofList properties⟩ := by
  have colon : (text domain properties).toList =
      domain.toList ++ ':' :: (",".intercalate (properties.map propertyText)).toList := by
    simp [text]
  have each : List.Forall₂ (fun part property => readProperty? part = some property)
      (properties.map fun property => (propertyText property).toList) properties := by
    rw [List.forall₂_map_left_iff, List.forall₂_same]
    exact fun property member => (written property member).readProperty?_eq
  rw [parse?, Text.splitFirst?_eq_some_iff.mpr ⟨colon, clear⟩, Option.bind_some]
  dsimp only
  rw [splitProperties_written written, mapM_eq_some_iff_forall₂.mpr each, Option.map_some,
    String.ofList_toList]

/-- A name is read back from its written form, whatever the order of its properties. -/
theorem parse?_written (clear : ':' ∉ domain.toList) (distinct : (properties.map (·.1)).Nodup)
    (written : ∀ property ∈ properties, WrittenProperty property) :
    ∃ name : ObjectName, name.domain = domain ∧
      (∀ key value, name.property? key = some value ↔ (key, value) ∈ properties) ∧
      ∀ order : List (String × String), order.Perm properties →
        parse? (text domain order) = some name := by
  refine ⟨⟨domain, SortedMap.ofList properties⟩, rfl, ?_, ?_⟩
  · intro key value
    rw [property?, SortedMap.get?_eq_some_iff, SortedMap.mem_entries_ofList_iff distinct]
  · intro order perm
    rw [parse?_text_eq clear fun property member => written property (perm.mem_iff.mp member),
      SortedMap.ofList_perm perm distinct]

/-- A plain value that ends in a backslash, a quoted one that holds every separator, and a property
of empty texts. -/
def trickyProperties : List (String × String) :=
  [("type", " a=b:c\\"), ("name", "\",=:\\\"\\\\\""), ("", "")]

theorem written_tricky : ∀ property ∈ trickyProperties, WrittenProperty property := by
  have body : QuotedBody [',', '=', ':', '\\', '"', '\\', '\\'] :=
    .char (by simp) (by simp) <| .char (by simp) (by simp) <| .char (by simp) (by simp) <|
      .escaped '"' <| .escaped '\\' .nil
  simp only [trickyProperties, List.forall_mem_cons]
  exact ⟨⟨by simp, rfl, .plain (by simp)⟩, ⟨by simp, rfl, .quoted body⟩,
    ⟨by simp, rfl, .plain (by simp)⟩, by simp⟩

theorem sample_written : ':' ∉ "a,\"b".toList ∧ (trickyProperties.map (·.1)).Nodup ∧
    (∀ property ∈ trickyProperties, WrittenProperty property) ∧
    ∃ name : ObjectName, name.domain = "a,\"b" ∧
      name.property? "name" = some "\",=:\\\"\\\\\"" ∧
      parse? "a,\"b:type= a=b:c\\,name=\",=:\\\"\\\\\",=" = some name ∧
      parse? "a,\"b:=,name=\",=:\\\"\\\\\",type= a=b:c\\" = some name := by
  have clear : ':' ∉ "a,\"b".toList := by simp
  have distinct : (trickyProperties.map (·.1)).Nodup := by simp [trickyProperties]
  obtain ⟨name, domain, held, read⟩ := parse?_written clear distinct written_tricky
  refine ⟨clear, distinct, written_tricky, name, domain, ?_, ?_, ?_⟩
  · exact (held _ _).mpr (by simp [trickyProperties])
  · exact read trickyProperties (.refl _)
  · exact read trickyProperties.reverse (List.reverse_perm _)

end ObjectName

end BeanMeter
