/-! # Splitting texts

Cutting a text at separators, with the exact treatment of leading, trailing and repeated ones.

* `splitFirst?` — the text before and after the first separator.
* `splitOn` — all pieces between separators, empty ones included.
* `splitInfix?` — the text before and after the first occurrence of a longer separator.
* `lines` — physical lines, ended by a newline or a carriage return and a newline.
-/

namespace BeanMeter.Text

/-- The text before and after the first character that equals `sep`, if there is one. -/
def splitFirst? (sep : Char) : List Char → Option (List Char × List Char)
  | [] => none
  | c :: rest =>
    if c = sep then some ([], rest)
    else (splitFirst? sep rest).map fun (a, b) => (c :: a, b)

theorem splitFirst?_eq_some_iff {sep : Char} {cs a b : List Char} :
    splitFirst? sep cs = some (a, b) ↔ cs = a ++ sep :: b ∧ sep ∉ a := by
  induction cs generalizing a b with
  | nil => simp [splitFirst?]
  | cons c rest ih =>
    by_cases hc : c = sep
    · subst hc
      cases a with
      | nil => simp [splitFirst?]
      | cons x a => simp [splitFirst?]; intro h; simp [h]
    · cases a with
      | nil => simp [splitFirst?, hc]
      | cons x a =>
        simp only [splitFirst?, hc, if_false, Option.map_eq_some_iff, Prod.exists, Prod.mk.injEq,
          List.cons.injEq, List.cons_append, List.mem_cons, not_or]
        constructor
        · rintro ⟨a', b', h, ⟨rfl, rfl⟩, rfl⟩
          obtain ⟨rfl, hn⟩ := ih.1 h
          exact ⟨⟨rfl, rfl⟩, fun e => hc e.symm, hn⟩
        · rintro ⟨⟨rfl, rfl⟩, _, hn⟩
          exact ⟨a, b, ih.2 ⟨rfl, hn⟩, ⟨rfl, rfl⟩, rfl⟩

theorem splitFirst?_eq_none_iff {sep : Char} {cs : List Char} :
    splitFirst? sep cs = none ↔ sep ∉ cs := by
  induction cs with
  | nil => simp [splitFirst?]
  | cons c rest ih =>
    by_cases hc : c = sep
    · simp [splitFirst?, hc]
    · have hc' : sep ≠ c := fun h => hc h.symm
      simp [splitFirst?, hc, hc', ih]

/-- All pieces of a text between occurrences of `sep`: one more than there are occurrences. -/
def splitOn (sep : Char) : List Char → List (List Char)
  | [] => [[]]
  | c :: rest =>
    if c = sep then [] :: splitOn sep rest
    else
      match splitOn sep rest with
      | [] => [[c]]
      | piece :: pieces => (c :: piece) :: pieces

/-- The pieces of a string between occurrences of `sep`. -/
def splitString (sep : Char) (s : String) : List String :=
  (splitOn sep s.toList).map String.ofList

/-- The rest of a text after a given beginning, if it begins so. -/
def stripStart? : List Char → List Char → Option (List Char)
  | [], cs => some cs
  | _ :: _, [] => none
  | p :: ps, c :: cs => if p = c then stripStart? ps cs else none

theorem stripStart?_eq_some_iff {start cs rest : List Char} :
    stripStart? start cs = some rest ↔ cs = start ++ rest := by
  induction start generalizing cs with
  | nil => simp [stripStart?]
  | cons p ps ih =>
    cases cs with
    | nil => simp [stripStart?]
    | cons c cs =>
      by_cases same : p = c
      · simp [stripStart?, same, ih]
      · simp [stripStart?, same, Ne.symm same]

/-- The text before and after the first occurrence of `sep`, if there is one. -/
def splitInfix? (sep : List Char) : List Char → Option (List Char × List Char)
  | [] => (stripStart? sep []).map fun rest => ([], rest)
  | c :: cs =>
    match stripStart? sep (c :: cs) with
    | some rest => some ([], rest)
    | none => (splitInfix? sep cs).map fun (a, b) => (c :: a, b)

/-- Removes one carriage return from the end of a line. -/
def dropReturn (line : List Char) : List Char :=
  if line.getLast? = some '\r' then line.dropLast else line

/-- The physical lines of a text. A newline, or a carriage return and a newline, ends a line; a
text that ends in a newline has no empty line after it. -/
def lines (cs : List Char) : List (List Char) :=
  match splitOn '\n' cs with
  | [] => []
  | pieces =>
    (pieces.dropLast.map dropReturn) ++
      match pieces.getLast? with
      | some [] | none => []
      | some last => [last]

/-- Whether `part` occurs somewhere in `cs`. -/
def containsInfix (part cs : List Char) : Bool := (splitInfix? part cs).isSome

end BeanMeter.Text
