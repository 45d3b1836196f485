import BeanMeter.Proofs.Config.WrittenProperties
import BeanMeter.Proofs.Number.Digits

/-! # Character codes

The escape `\u` with the four hexadecimal digits of a code unit: which texts the reader takes for
one, and what becomes of a value in which every character is written so.

* `PropertySet.Complete` — a text that ends between two escapes.
* `PropertySet.unescape_malformed` — `\u` without four digits stays as it is, unless a plus sign or
  too few digits at the end of the text are `Mistaken` for a code.
* `PropertySet.get?_writeCoded` — a value written in codes is read back, except for the characters
  that take two code units: their codes stay as they are.
-/

namespace BeanMeter.PropertySet

variable {before after hex cs : List Char}

/-! ## Reading a code -/

/-- Exactly four hexadecimal digits. -/
def IsCode (hex : List Char) : Prop :=
  hex.length = 4 ∧ hex.all (fun c => (hexValue? c).isSome) = true

instance : Decidable (IsCode hex) := inferInstanceAs (Decidable (_ ∧ _))

/-- A text that does not end within an escape: a backslash after it begins one. -/
inductive Complete : List Char → Prop
  | nil : Complete []
  | plain {c : Char} {rest : List Char} (other : c ≠ '\\') (more : Complete rest) :
      Complete (c :: rest)
  | letter {c : Char} {rest : List Char} (short : c ≠ 'u') (more : Complete rest) :
      Complete ('\\' :: c :: rest)
  | code {hex rest : List Char} (full : hex.length = 4) (more : Complete rest) :
      Complete ('\\' :: 'u' :: (hex ++ rest))

/-- What is taken for the code `n` although it is none: fewer digits than four, or digits with a
plus sign. -/
inductive Mistaken (n : Nat) : List Char → Prop
  | short {ds : List Char} (few : ds.length < 4) (reads : readHexDigits? ds = some n) :
      Mistaken n ds
  | signed {ds : List Char} (reads : readHexDigits? ds = some n) : Mistaken n ('+' :: ds)

theorem unescape_append (complete : Complete before) :
    unescape (before ++ after) = unescape before ++ unescape after := by
  induction complete with
  | nil => simp
  | plain other _ ih =>
    rw [List.cons_append, unescape_cons other, unescape_cons other, ih, List.cons_append]
  | letter short _ ih =>
    rw [List.cons_append, List.cons_append, unescape_letter short, unescape_letter short, ih,
      List.cons_append]
  | code full _ ih =>
    rw [List.cons_append, List.cons_append, unescape_code, unescape_code, List.append_assoc,
      List.take_left' full, List.drop_left' full, List.take_left' full, List.drop_left' full, ih,
      List.append_assoc]

theorem readCodeUnit?_eq (unsigned : hex.head? ≠ some '+') :
    readCodeUnit? hex = readHexDigits? hex := by
  unfold readCodeUnit?
  split
  · simp at unsigned
  · rfl

theorem readCodeUnit?_of_digits {n : Nat} (reads : readHexDigits? hex = some n) :
    readCodeUnit? hex = some n := by
  rw [readCodeUnit?_eq, reads]
  intro sign
  have digit := (of_readHexDigits? reads).2.1 _ (List.mem_of_mem_head? sign)
  cases digit

theorem decodeUnit_of_mistaken {n : Nat} (mistaken : Mistaken n hex) (most : hex.length ≤ 4) :
    decodeUnit hex = [Char.ofNat n] := by
  -- Three digits at most are read, too few for a surrogate.
  have decodes (reads : readCodeUnit? hex = some n) (small : n < 16 ^ 3) :
      decodeUnit hex = [Char.ofNat n] := by
    rw [decodeUnit, reads]
    exact if_pos (.inl (by omega))
  cases mistaken with
  | short few reads =>
    have bound := (of_readHexDigits? reads).2.2
    exact decodes (readCodeUnit?_of_digits reads)
      (bound.trans_le (Nat.pow_le_pow_right (by decide) (by omega)))
  | signed reads =>
    have bound := (of_readHexDigits? reads).2.2
    rw [List.length_cons] at most
    exact decodes reads (bound.trans_le (Nat.pow_le_pow_right (by decide) (by omega)))

theorem decodeUnit_of_malformed (malformed : ¬ IsCode hex) (most : hex.length ≤ 4)
    (noMistake : ∀ n, ¬ Mistaken n hex) : decodeUnit hex = '\\' :: 'u' :: hex := by
  have unread : readCodeUnit? hex = none := by
    rw [Option.eq_none_iff_forall_ne_some]
    intro n reads
    unfold readCodeUnit? at reads
    split at reads
    · exact noMistake n (.signed reads)
    · by_cases few : hex.length < 4
      · exact noMistake n (.short few reads)
      · exact malformed ⟨by omega, List.all_eq_true.mpr (of_readHexDigits? reads).2.1⟩
  rw [decodeUnit, unread]

/-- Where an escape `\u` is not followed by four hexadecimal digits, it stays as it is, with the
characters after it up to four, unless these are mistaken for a code. -/
theorem unescape_malformed (begins : Complete before) (malformed : ¬ IsCode (after.take 4)) :
    ((∀ n, ¬ Mistaken n (after.take 4)) →
      unescape (before ++ '\\' :: 'u' :: after) =
        unescape before ++ '\\' :: 'u' :: after.take 4 ++ unescape (after.drop 4)) ∧
    ∀ n, Mistaken n (after.take 4) →
      unescape (before ++ '\\' :: 'u' :: after) =
        unescape before ++ Char.ofNat n :: unescape (after.drop 4) := by
  have most : (after.take 4).length ≤ 4 := List.length_take_le 4 after
  rw [unescape_append begins, unescape_code]
  constructor
  · intro noMistake
    rw [decodeUnit_of_malformed malformed most noMistake, List.append_assoc]
  · intro n mistaken
    rw [decodeUnit_of_mistaken mistaken most, List.singleton_append]

/-- After a pair of backslashes, a code with a minus sign, which stays, and one with two digits at
the end, which is mistaken. -/
theorem sample_malformed :
    Complete ['a', '\\', '\\'] ∧
      (¬ IsCode ("0-12z".toList.take 4) ∧ (∀ n, ¬ Mistaken n ("0-12z".toList.take 4)) ∧
        unescape ("a\\\\".toList ++ '\\' :: 'u' :: "0-12z".toList) =
          unescape "a\\\\".toList ++ "\\u0-12".toList ++ unescape ['z']) ∧
      ¬ IsCode ("41".toList.take 4) ∧ Mistaken 0x41 ("41".toList.take 4) ∧
        unescape ("a\\\\".toList ++ '\\' :: 'u' :: "41".toList) =
          unescape "a\\\\".toList ++ 'A' :: unescape [] := by
  have begins : Complete ['a', '\\', '\\'] := .plain (by decide) (.letter (by decide) .nil)
  have signed : ¬ IsCode ("0-12z".toList.take 4) := by decide +kernel
  have short : ¬ IsCode ("41".toList.take 4) := by decide +kernel
  have noMistake : ∀ n, ¬ Mistaken n ("0-12z".toList.take 4) := by
    intro n mistaken
    cases mistaken with
    | short few => exact absurd few (by decide +kernel)
  have mistaken : Mistaken 0x41 ("41".toList.take 4) :=
    .short (by decide +kernel) (by decide +kernel)
  exact ⟨begins, ⟨signed, noMistake, (unescape_malformed begins signed).1 noMistake⟩, short,
    mistaken, (unescape_malformed begins short).2 _ mistaken⟩

/-- A plus sign in a code does not keep it from being decoded. -/
theorem sample_mistaken : ¬ ∀ before after : List Char, Complete before →
    ¬ IsCode (after.take 4) →
      unescape (before ++ '\\' :: 'u' :: after) =
        unescape before ++ '\\' :: 'u' :: after.take 4 ++ unescape (after.drop 4) := by
  intro kept
  have same := kept [] ['+', '0', '4', '1'] .nil (by decide)
  rw [List.nil_append, unescape_code] at same
  exact absurd same (by decide +kernel)

/-! ## Writing codes -/

/-- The code units of a character: one, or two if its code is too large for one. -/
def codeUnits (c : Char) : List Nat :=
  if c.toNat < 0x10000 then [c.toNat]
  else [0xd800 + (c.toNat - 0x10000) / 0x400, 0xdc00 + (c.toNat - 0x10000) % 0x400]

/-- The escape of a code unit, with digits in upper or in lower case. -/
def codeOf (upper : Bool) (unit : Nat) : List Char :=
  '\\' :: 'u' :: (hexDigits 4 unit).map (hexCase upper)

/-- The escapes of the code units of a character. -/
def codesOf (upper : Bool) (c : Char) : List Char := (codeUnits c).flatMap (codeOf upper)

/-- What is read where a character is written in codes: the character, or its codes if there are
two. -/
def readBack (upper : Bool) (c : Char) : List Char :=
  if c.toNat < 0x10000 then [c] else codesOf upper c

theorem unescape_codeOf (upper : Bool) {unit : Nat} (fits : unit < 0x10000) :
    unescape (codeOf upper unit ++ after) =
      (if unit < 0xd800 ∨ 0xdfff < unit then [Char.ofNat unit] else codeOf upper unit) ++
        unescape after := by
  have size : ((hexDigits 4 unit).map (hexCase upper)).length = 4 := by
    rw [List.length_map, length_hexDigits]
  have reads : readHexDigits? ((hexDigits 4 unit).map (hexCase upper)) = some unit :=
    readHexDigits?_hexDigits upper fits
  rw [codeOf, List.cons_append, List.cons_append, unescape_code, List.take_left' size,
    List.drop_left' size, decodeUnit, readCodeUnit?_of_digits reads]

theorem unescape_codesOf (upper : Bool) (c : Char) :
    unescape (codesOf upper c ++ after) = readBack upper c ++ unescape after := by
  have valid : c.toNat < 0xd800 ∨ 0xdfff < c.toNat ∧ c.toNat < 0x110000 := c.valid
  by_cases one : c.toNat < 0x10000
  · have scalar : c.toNat < 0xd800 ∨ 0xdfff < c.toNat := by omega
    rw [codesOf, codeUnits, if_pos one, List.flatMap_singleton, unescape_codeOf upper one,
      if_pos scalar, Char.ofNat_toNat, readBack, if_pos one]
  · -- Neither half of a pair is the code of a character.
    have high : ¬ (0xd800 + (c.toNat - 0x10000) / 0x400 < 0xd800 ∨
        0xdfff < 0xd800 + (c.toNat - 0x10000) / 0x400) := by omega
    have low : ¬ (0xdc00 + (c.toNat - 0x10000) % 0x400 < 0xd800 ∨
        0xdfff < 0xdc00 + (c.toNat - 0x10000) % 0x400) := by omega
    rw [readBack, if_neg one, codesOf, codeUnits, if_neg one, List.flatMap_cons,
      List.flatMap_singleton, List.append_assoc, unescape_codeOf upper (by omega), if_neg high,
      unescape_codeOf upper (by omega), if_neg low, List.append_assoc]

theorem unescape_codes (upper : Bool) (cs : List Char) :
    unescape (cs.flatMap (codesOf upper)) = cs.flatMap (readBack upper) := by
  induction cs with
  | nil => simp
  | cons c cs ih => rw [List.flatMap_cons, unescape_codesOf, ih, List.flatMap_cons]

/-- A text is read back as it was if and only if each of its characters takes one code unit. -/
theorem readBack_eq_self_iff (upper : Bool) (cs : List Char) :
    cs.flatMap (readBack upper) = cs ↔ ∀ c ∈ cs, c.toNat < 0x10000 := by
  have longer (c : Char) : 1 ≤ (readBack upper c).length := by
    unfold readBack codesOf codeUnits
    split <;> simp [codeOf]
  have grows (ds : List Char) : ds.length ≤ (ds.flatMap (readBack upper)).length := by
    induction ds with
    | nil => simp
    | cons d ds ih =>
      have own := longer d
      rw [List.flatMap_cons, List.length_append, List.length_cons]
      omega
  induction cs with
  | nil => simp
  | cons c cs ih =>
    rw [List.flatMap_cons, List.forall_mem_cons]
    by_cases one : c.toNat < 0x10000
    · simp [readBack, one, ih]
    · have two : 2 ≤ (readBack upper c).length := by
        simp [readBack, codesOf, codeUnits, one, codeOf]
      have rest := grows cs
      refine iff_of_false (fun same => ?_) (by simp [one])
      have size := congrArg List.length same
      rw [List.length_append, List.length_cons] at size
      omega

/-! ## Documents of codes -/

/-- The line of an entry whose value is written in codes. -/
def codedLine (upper : Bool) (entry : String × String) : List Char :=
  escape entry.1.toList ++ '=' :: entry.2.toList.flatMap (codesOf upper)

/-- The document with a line for each of some entries, with their values in codes. -/
def writeCoded (upper : Bool) (entries : List (String × String)) : String :=
  String.ofList ((entries.map (codedLine upper)).flatMap fun line => line ++ ['\n'])

theorem hexCase_ne (upper : Bool) {c : Char} (other : hexValue? c = none) {d : Nat}
    (small : d < 16) : hexCase upper (digitChar d) ≠ c := by
  rintro rfl
  rw [hexValue?_digitChar upper small] at other
  cases other

theorem isFolded_flatMap {α : Type} {f : α → List Char} (unfolded : ∀ x, isFolded (f x) = false)
    (xs : List α) : isFolded (xs.flatMap f) = false := by
  induction xs with
  | nil => rfl
  | cons x xs ih => rw [List.flatMap_cons, isFolded_append (unfolded x), ih]

theorem isFolded_codeOf (upper : Bool) (unit : Nat) : isFolded (codeOf upper unit) = false := by
  have last : hexCase upper (digitChar (unit % 16)) ≠ '\\' := hexCase_ne upper rfl (by omega)
  rw [codeOf, hexDigits, List.map_append, ← List.cons_append, ← List.cons_append]
  exact isFolded_append_cons last

theorem not_mem_codeOf {upper : Bool} {unit : Nat} {c : Char} (other : hexValue? c = none)
    (noEscape : c ≠ '\\' ∧ c ≠ 'u') : c ∉ codeOf upper unit := by
  intro member
  rw [codeOf, List.mem_cons, List.mem_cons, List.mem_map] at member
  rcases member with escape | letter | ⟨digit, written, same⟩
  · exact noEscape.1 escape
  · exact noEscape.2 letter
  · obtain ⟨d, small, rfl⟩ := mem_hexDigits written
    exact hexCase_ne upper other small same

theorem wholeLine_codedLine (upper : Bool) (entry : String × String) :
    WholeLine (codedLine upper entry) := by
  have unfolded : isFolded (entry.2.toList.flatMap (codesOf upper)) = false :=
    isFolded_flatMap (fun c => isFolded_flatMap (isFolded_codeOf upper) _) _
  have apart {c : Char} (other : hexValue? c = none) (noEscape : c ≠ '\\' ∧ c ≠ 'u') :
      c ∉ entry.2.toList.flatMap (codesOf upper) := by
    simp only [codesOf, List.mem_flatMap, not_exists, not_and]
    exact fun _ _ _ _ => not_mem_codeOf other noEscape
  exact wholeLine_keyed _ unfolded ⟨apart rfl (by decide), apart rfl (by decide)⟩

theorem splitEntry_codedLine (upper : Bool) (entry : String × String) :
    splitEntry (codedLine upper entry) =
      (entry.1, String.ofList (entry.2.toList.flatMap (readBack upper))) := by
  have starts : (entry.2.toList.flatMap (codesOf upper)).head?.any isGap = false := by
    cases entry.2.toList with
    | nil => rfl
    | cons c cs =>
      rw [List.flatMap_cons, codesOf, codeUnits]
      split <;> rfl
  rw [codedLine, splitEntry_keyed, dropSeparator_cons starts, unescape_codes]

theorem get?_parse_writeCoded (upper : Bool) {entries : List (String × String)}
    (distinct : (entries.map (·.1)).Nodup) {key value : String} (member : (key, value) ∈ entries) :
    (parse (writeCoded upper entries)).get? key =
      some (String.ofList (value.toList.flatMap (readBack upper))) := by
  have whole : ∀ line ∈ entries.map (codedLine upper), WholeLine line := by
    rw [List.forall_mem_map]
    exact fun entry _ => wholeLine_codedLine upper entry
  rw [writeCoded, parse_wholeLines whole, List.map_map, SortedMap.get?_eq_some_iff,
    SortedMap.mem_entries_ofList_iff]
  · exact List.mem_map.mpr ⟨_, member, splitEntry_codedLine upper _⟩
  · simpa [Function.comp_def, splitEntry_codedLine] using distinct

/-- A value written in codes is read back with the codes of pairs as they are, so it is read back
as it was if and only if each of its characters takes one code unit. -/
theorem get?_writeCoded (upper : Bool) {entries : List (String × String)}
    (distinct : (entries.map (·.1)).Nodup) {key value : String} (member : (key, value) ∈ entries) :
    (parse (writeCoded upper entries)).get? key =
        some (String.ofList (value.toList.flatMap (readBack upper))) ∧
      ((parse (writeCoded upper entries)).get? key = some value ↔
        ∀ c ∈ value.toList, c.toNat < 0x10000) := by
  have read := get?_parse_writeCoded upper distinct member
  refine ⟨read, ?_⟩
  rw [read, Option.some_inj, ← String.toList_inj, String.toList_ofList, readBack_eq_self_iff]

namespace Sample

/-- A letter that takes one code unit, and a face that takes two. -/
def coded : List (String × String) := [("a", "é\n"), ("b c", "😀")]

end Sample

theorem sample_writeCoded : (Sample.coded.map (·.1)).Nodup ∧
    (("a", "é\n") ∈ Sample.coded ∧
      (parse (writeCoded false Sample.coded)).get? "a" = some "é\n") ∧
    ("b c", "😀") ∈ Sample.coded ∧
      (parse (writeCoded true Sample.coded)).get? "b c" = some "\\uD83D\\uDE00" := by
  have distinct : (Sample.coded.map (·.1)).Nodup := by simp [Sample.coded]
  have letter : ("a", "é\n") ∈ Sample.coded := by simp [Sample.coded]
  have face : ("b c", "😀") ∈ Sample.coded := by simp [Sample.coded]
  refine ⟨distinct, ⟨letter, ?_⟩, face, ?_⟩
  · exact (get?_writeCoded false distinct letter).2.mpr (by simp)
  · rw [(get?_writeCoded true distinct face).1]
    decide +kernel

/-- A character that takes two code units is not read back. -/
theorem sample_pair : ¬ ∀ key value : String,
    (parse (writeCoded true [(key, value)])).get? key = some value := by
  intro back
  have same := back "a" "😀"
  rw [get?_parse_writeCoded true (by simp) (List.mem_singleton_self _)] at same
  exact absurd same (by decide +kernel)

end BeanMeter.PropertySet
