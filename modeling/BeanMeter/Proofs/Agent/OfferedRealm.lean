import BeanMeter.Agent.Challenge
import BeanMeter.Proofs.Text.Separators

/-! # Offered realms

A challenge names its scheme and then lists parameters, one of which may be the realm, in quotes.
The list is cut at every comma, also at those between the quotes, so that of a realm with a comma
only the beginning is read.

* `Challenge.headerOf` — a scheme with its parameters.
* `Challenge.offeredPart` — what is read of a realm between quotes.
* `Challenge.parse_headerOf` — the scheme and the realm that are read from such a header.
-/

namespace BeanMeter.Challenge

variable {scheme r body quotes parameter own cs : List Char}

/-! ## What is written -/

/-- A word of a header: there is something in it, and nothing by which words are told apart. -/
structure IsToken (cs : List Char) : Prop where
  some : cs ≠ []
  solid : ∀ c ∈ cs, Text.isBlank c = false ∧ c ≠ ',' ∧ c ≠ '=' ∧ c ≠ '"'

/-- The characters are looked at one by one. -/
instance (cs : List Char) : Decidable (IsToken cs) :=
  have : Decidable (∀ c ∈ cs, Text.isBlank c = false ∧ c ≠ ',' ∧ c ≠ '=' ∧ c ≠ '"') :=
    List.decidableBAll _ cs
  decidable_of_iff (cs ≠ [] ∧ ∀ c ∈ cs, Text.isBlank c = false ∧ c ≠ ',' ∧ c ≠ '=' ∧ c ≠ '"')
    ⟨fun ⟨filled, solid⟩ => ⟨filled, solid⟩, fun token => ⟨token.some, token.solid⟩⟩

/-- A text with nothing or blanks around it. -/
def Surrounds (cs piece : List Char) : Prop :=
  ∃ before after, piece = before ++ (cs ++ after) ∧ (∀ c ∈ before, Text.isBlank c = true) ∧
    ∀ c ∈ after, Text.isBlank c = true

/-- A parameter other than the realm, written as a name and a token. -/
def IsOther (piece : List Char) : Prop :=
  ∃ name value, IsToken name ∧ IsToken value ∧
    Text.equalIgnoringCase (String.ofList name) "realm" = false ∧
    Surrounds (name ++ '=' :: value) piece

/-- What stands in front of a realm. -/
def opening : List Char := "realm=\"".toList

/-- The parameter that gives a realm, in quotes. -/
def realmText (r : List Char) : List Char := opening ++ (r ++ ['"'])

/-- The header that asks for a scheme and lists parameters, separated by commas. -/
def headerOf (scheme : List Char) (parameters : List (List Char)) : String :=
  String.ofList (scheme ++ ' ' :: [','].intercalate parameters)

/-- What is read of a realm between quotes: all of it, or what stands before the first comma,
without the blanks in front of the comma. -/
def offeredPart (r : List Char) : List Char :=
  if ',' ∈ r then Text.trimEnd (r.takeWhile (· ≠ ',')) else r

/-- Only a realm with a comma is not read in full. -/
theorem offeredPart_eq_self_iff : offeredPart r = r ↔ ',' ∉ r := by
  rw [offeredPart]
  split
  · next comma =>
    refine iff_of_false (fun same => ?_) (not_not_intro comma)
    have kept : Text.trimEnd (r.takeWhile (· ≠ ',')) ⊆ r.takeWhile (· ≠ ',') :=
      (List.rdropWhile_prefix _ _).subset
    rw [same] at kept
    have before := kept comma
    simpa using List.mem_takeWhile_imp before
  · next none => simp [none]

/-! ## Parameters -/

namespace IsToken

theorem not_mem (token : IsToken cs) {c : Char} (special : Text.isBlank c = true ∨ c = ',' ∨
    c = '=' ∨ c = '"') : c ∉ cs := by
  intro member
  obtain ⟨visible, comma, equals, quote⟩ := token.solid c member
  simp_all

theorem first (token : IsToken cs) : cs.head?.any Text.isBlank = false :=
  Text.head?_any_eq_false fun c member => (token.solid c member).1

theorem last (token : IsToken cs) : cs.getLast?.any Text.isBlank = false := by
  rw [List.getLast?_eq_head?_reverse]
  exact Text.head?_any_eq_false fun c member => (token.solid c (List.mem_reverse.mp member)).1

theorem trimChars_eq (token : IsToken cs) : Text.trimChars cs = cs :=
  Text.trimChars_eq_self token.first token.last

end IsToken

/-- Blanks around a parameter do not count. -/
theorem realmOf?_surrounded {piece : List Char} (around : Surrounds cs piece) :
    realmOf? piece = realmOf? cs := by
  obtain ⟨before, after, rfl, leading, trailing⟩ := around
  rw [realmOf?, Text.trimChars_surrounded leading trailing, realmOf?]

theorem IsOther.realmOf?_eq {piece : List Char} (other : IsOther piece) :
    realmOf? piece = none := by
  obtain ⟨name, value, isName, isValue, foreign, around⟩ := other
  -- The name begins and the value ends the parameter, and neither has blanks.
  have trimmed : Text.trimChars (name ++ '=' :: value) = name ++ '=' :: value := by
    rw [Text.trimChars_append_cons (by decide)]
    have front : Text.trimStart name = name := Text.dropWhile_eq_self isName.first
    have back : Text.trimEnd value = value := Text.trimEnd_eq_self_iff.mpr isValue.last
    rw [front, back]
  have cut : Text.splitFirst? '=' (name ++ '=' :: value) = some (name, value) :=
    Text.splitFirst?_eq_some_iff.mpr ⟨rfl, isName.not_mem (by simp)⟩
  rw [realmOf?_surrounded around, realmOf?, trimmed, cut]
  simp [isName.trimChars_eq, foreign]

theorem comma_not_mem_of_blank (blank : ∀ c ∈ cs, Text.isBlank c = true) : ',' ∉ cs :=
  fun member => absurd (blank ',' member) (by decide)

theorem comma_not_mem_of_isOther {piece : List Char} (other : IsOther piece) : ',' ∉ piece := by
  obtain ⟨name, value, isName, isValue, -, before, after, rfl, leading, trailing⟩ := other
  have fromName : ',' ∉ name := isName.not_mem (by simp)
  have fromValue : ',' ∉ value := isValue.not_mem (by simp)
  simp [comma_not_mem_of_blank leading, comma_not_mem_of_blank trailing, fromName, fromValue]

theorem trimQuotes_eq (plain : '"' ∉ body) (closing : ∀ c ∈ quotes, c = '"') :
    trimQuotes ('"' :: (body ++ quotes)) = body := by
  have quoted : ∀ c ∈ quotes.reverse, (c == '"') = true := by simpa using closing
  have bare : ∀ c ∈ body, (c == '"') = false := by
    intro c member
    simpa using ne_of_mem_of_not_mem member plain
  have back : (body ++ quotes).reverse.dropWhile (· == '"') = body.reverse := by
    rw [List.reverse_append, List.dropWhile_append_of_pos quoted]
    exact Text.dropWhile_eq_self (Text.head?_any_eq_false (by simpa using bare))
  cases body with
  | nil =>
    have gone : quotes.dropWhile (· == '"') = [] :=
      List.dropWhile_eq_nil_iff.mpr (by simpa using closing)
    simp [trimQuotes, gone]
  | cons c body =>
    have front : ((c :: body) ++ quotes).dropWhile (· == '"') = (c :: body) ++ quotes :=
      Text.dropWhile_eq_self (by simpa using bare c List.mem_cons_self)
    rw [trimQuotes, List.dropWhile_cons_of_pos (by rfl), front, back, List.reverse_reverse]

/-- What a parameter holds behind the opening quote of a realm, apart from blanks at its end, is
read up to the closing quote, if there is one. -/
theorem realmOf?_opened {rest : List Char} (around : Surrounds (opening ++ rest) parameter)
    (trimmed : Text.trimEnd rest = body ++ quotes) (plain : '"' ∉ body)
    (closing : ∀ c ∈ quotes, c = '"') : realmOf? parameter = some (String.ofList body) := by
  have visible : Text.isBlank '"' = false := by decide
  have whole : Text.trimChars (opening ++ rest) =
      "realm".toList ++ '=' :: '"' :: (body ++ quotes) := by
    rw [← trimmed]
    exact @Text.trimChars_append_cons "realm=".toList _ visible rest
  have cut : Text.splitFirst? '=' ("realm".toList ++ '=' :: '"' :: (body ++ quotes)) =
      some ("realm".toList, '"' :: (body ++ quotes)) :=
    Text.splitFirst?_eq_some_iff.mpr ⟨rfl, by decide⟩
  have value : Text.trimChars ('"' :: (body ++ quotes)) = '"' :: (body ++ quotes) := by
    have again : Text.trimEnd (body ++ quotes) = body ++ quotes := by
      rw [← trimmed]
      exact List.rdropWhile_idempotent Text.isBlank rest
    have kept : Text.trimChars ([] ++ '"' :: (body ++ quotes)) =
        [] ++ '"' :: Text.trimEnd (body ++ quotes) := Text.trimChars_append_cons visible _
    rwa [again] at kept
  have key : Text.trimChars "realm".toList = "realm".toList := by decide
  have named : Text.equalIgnoringCase (String.ofList "realm".toList) "realm" = true := by decide
  rw [realmOf?_surrounded around, realmOf?, whole, cut]
  simp only [key, value, named, if_true, trimQuotes_eq plain closing]

/-- The realm is found in the first of the pieces that its parameter falls into. -/
theorem exists_splitOn_realm (plain : '"' ∉ r) (around : Surrounds (realmText r) own) :
    ∃ piece pieces, Text.splitOn ',' own = piece :: pieces ∧
      realmOf? piece = some (String.ofList (offeredPart r)) := by
  obtain ⟨before, after, rfl, leading, trailing⟩ := around
  have key : ',' ∉ opening := by decide
  have start : ',' ∉ before := comma_not_mem_of_blank leading
  have stop : ',' ∉ after := comma_not_mem_of_blank trailing
  cases halves : Text.splitFirst? ',' r with
  | none =>
    have whole : ',' ∉ r := Text.splitFirst?_eq_none_iff.mp halves
    have single : ',' ∉ before ++ (realmText r ++ after) := by
      simp [realmText, start, stop, key, whole]
    have around : Surrounds (opening ++ (r ++ ['"'])) (before ++ (realmText r ++ after)) :=
      ⟨before, after, rfl, leading, trailing⟩
    have quoted : Text.trimEnd (r ++ ['"']) = r ++ ['"'] := Text.trimEnd_append_cons (by decide) []
    rw [offeredPart, if_neg whole]
    exact ⟨_, [], Text.splitOn_eq_singleton single, realmOf?_opened around quoted plain (by simp)⟩
  | some parts =>
    -- The closing quote is in a later piece.
    obtain ⟨first, rest⟩ := parts
    obtain ⟨rfl, short⟩ := Text.splitFirst?_eq_some_iff.mp halves
    have beginning : (first ++ ',' :: rest).takeWhile (· ≠ ',') = first := by
      rw [List.takeWhile_append_of_pos fun c member => by
        simpa using ne_of_mem_of_not_mem member short]
      simp
    have single : ',' ∉ before ++ (opening ++ first) := by simp [start, key, short]
    have around : Surrounds (opening ++ first) (before ++ (opening ++ first)) :=
      ⟨before, [], by rw [List.append_nil], leading, by simp⟩
    have bare : '"' ∉ Text.trimEnd first := fun quote =>
      plain (List.mem_append_left _ ((List.rdropWhile_prefix _ _).subset quote))
    have trimmed : Text.trimEnd first = Text.trimEnd first ++ [] := (List.append_nil _).symm
    have cut : before ++ (realmText (first ++ ',' :: rest) ++ after) =
        (before ++ (opening ++ first)) ++ ',' :: (rest ++ '"' :: after) := by
      simp [realmText]
    rw [offeredPart, if_pos (by simp), beginning, cut]
    exact ⟨_, _, Text.splitOn_append_cons single, realmOf?_opened around trimmed bare (by simp)⟩

/-! ## Headers -/

/-- Blanks at the end of a list of parameters do not count. -/
theorem findSome?_splitOn_trimEnd (cs : List Char) :
    (Text.splitOn ',' (Text.trimEnd cs)).findSome? realmOf? =
      (Text.splitOn ',' cs).findSome? realmOf? := by
  have whole : Text.trimEnd cs ++ cs.rtakeWhile Text.isBlank = cs :=
    List.rdropWhile_append_rtakeWhile
  have blank : ∀ c ∈ cs.rtakeWhile Text.isBlank, Text.isBlank c = true :=
    fun c member => List.mem_takeWhile_imp (List.mem_reverse.mp member)
  have clear : ',' ∉ cs.rtakeWhile Text.isBlank := comma_not_mem_of_blank blank
  obtain ⟨pieces, last, (shorter : Text.splitOn ',' (Text.trimEnd cs) = _), longer⟩ :=
    Text.exists_splitOn_append clear
  have same : realmOf? (last ++ cs.rtakeWhile Text.isBlank) = realmOf? last :=
    realmOf?_surrounded ⟨[], _, rfl, by simp, blank⟩
  rw [whole] at longer
  rw [shorter, longer, List.findSome?_append, List.findSome?_append, List.findSome?_singleton,
    List.findSome?_singleton, same]

theorem findSome?_splitOn_intercalate {before after : List (List Char)}
    (earlier : ∀ piece ∈ before, IsOther piece) (plain : '"' ∉ r)
    (given : Surrounds (realmText r) own) :
    (Text.splitOn ',' ([','].intercalate (before ++ own :: after))).findSome? realmOf? =
      some (String.ofList (offeredPart r)) := by
  induction before with
  | nil =>
    obtain ⟨piece, pieces, cut, found⟩ := exists_splitOn_realm plain given
    cases after with
    | nil => simp [cut, found]
    | cons next after =>
      rw [List.nil_append, List.intercalate_cons_cons, List.append_assoc, List.singleton_append,
        Text.splitOn_append_sep, cut]
      simp [found]
  | cons piece before ih =>
    obtain ⟨other, others⟩ := List.forall_mem_cons.mp earlier
    have some : before ++ own :: after ≠ [] := by simp
    rw [List.cons_append, List.intercalate_cons_of_ne_nil some, List.append_assoc,
      List.singleton_append, Text.splitOn_append_cons (comma_not_mem_of_isOther other),
      List.findSome?_cons, other.realmOf?_eq]
    exact ih others

theorem quote_mem_intercalate {before after : List (List Char)}
    (given : Surrounds (realmText r) own) : '"' ∈ [','].intercalate (before ++ own :: after) := by
  have within : own <:+: [','].intercalate (before ++ own :: after) :=
    Text.isInfix_of_mem_intercalate (by simp)
  obtain ⟨leading, trailing, rfl, -, -⟩ := given
  exact within.subset (by simp [realmText])

/-- A header is cut at its first space. -/
theorem parse_scheme {parameters : List Char} (token : IsToken scheme) (quote : '"' ∈ parameters) :
    parse (String.ofList (scheme ++ ' ' :: parameters)) =
      ⟨String.ofList scheme, (Text.splitOn ',' parameters).findSome? realmOf?⟩ := by
  have trimmed : Text.trimChars (scheme ++ ' ' :: parameters) =
      scheme ++ ' ' :: Text.trimEnd parameters := by
    have start : Text.trimStart (scheme ++ ' ' :: parameters) = scheme ++ ' ' :: parameters := by
      apply Text.dropWhile_eq_self
      rw [List.head?_append_of_ne_nil _ token.some]
      exact token.first
    have ends : Text.trimEnd ((scheme ++ [' ']) ++ parameters) =
        (scheme ++ [' ']) ++ Text.trimEnd parameters :=
      Text.trimEnd_append_of_visible (by decide) quote
    rw [List.append_assoc, List.append_assoc] at ends
    rw [Text.trimChars, start]
    exact ends
  have cut : Text.splitFirst? ' ' (scheme ++ ' ' :: Text.trimEnd parameters) =
      some (scheme, Text.trimEnd parameters) :=
    Text.splitFirst?_eq_some_iff.mpr ⟨rfl, token.not_mem (.inl (by decide))⟩
  simp only [parse, String.toList_ofList, trimmed, cut, Option.getD_some,
    findSome?_splitOn_trimEnd]

/-- A header is read as its scheme and what stands between the quotes of its realm up to the first
comma there, whatever parameters of other names come before and whatever comes after. So the realm
is read exactly unless there is a comma in it. -/
theorem parse_headerOf {before after : List (List Char)} (token : IsToken scheme)
    (earlier : ∀ piece ∈ before, IsOther piece) (plain : '"' ∉ r)
    (given : Surrounds (realmText r) own) :
    let c := parse (headerOf scheme (before ++ own :: after))
    c = ⟨String.ofList scheme, some (String.ofList (offeredPart r))⟩ ∧
      (c.realm = some (String.ofList r) ↔ ',' ∉ r) := by
  intro c
  have read : c = ⟨String.ofList scheme, some (String.ofList (offeredPart r))⟩ := by
    have found : (Text.splitOn ',' ([','].intercalate (before ++ own :: after))).findSome?
        realmOf? = some (String.ofList (offeredPart r)) :=
      findSome?_splitOn_intercalate earlier plain given
    rw [← found]
    exact parse_scheme token (quote_mem_intercalate given)
  refine ⟨read, ?_⟩
  rw [read, ← offeredPart_eq_self_iff]
  simp [← String.toList_inj]

namespace Sample

/-- A parameter in front of a realm that has blanks and equals signs between its quotes. -/
def parameters : List (List Char) :=
  ["nonce=a ".toList, " realm=\" x = realm=y \"".toList, "charset=utf-8".toList]

end Sample

theorem sample_offered :
    headerOf "Digest".toList Sample.parameters =
      "Digest nonce=a , realm=\" x = realm=y \",charset=utf-8" ∧
    (parse (headerOf "Digest".toList Sample.parameters)).realm = some " x = realm=y " := by
  have nonce : IsOther "nonce=a ".toList :=
    ⟨"nonce".toList, "a".toList, by decide +kernel, by decide +kernel, by decide +kernel,
      [], [' '], rfl, by simp, by simp [Text.isBlank]⟩
  have given : Surrounds (realmText " x = realm=y ".toList) " realm=\" x = realm=y \"".toList :=
    ⟨[' '], [], rfl, by simp [Text.isBlank], by simp⟩
  have token : IsToken "Digest".toList := by decide +kernel
  have earlier : ∀ piece ∈ ["nonce=a ".toList], IsOther piece := by simpa using nonce
  have exact_iff : (parse (headerOf "Digest".toList Sample.parameters)).realm =
      some (String.ofList " x = realm=y ".toList) ↔ ',' ∉ " x = realm=y ".toList :=
    (parse_headerOf token earlier (by decide) given).2
  rw [String.ofList_toList] at exact_iff
  exact ⟨by decide +kernel, exact_iff.mpr (by decide)⟩

/-- The comma between the quotes ends what is read. -/
theorem sample_comma_in_realm :
    headerOf "Basic".toList [realmText "a,b".toList] = "Basic realm=\"a,b\"" ∧
      parse "Basic realm=\"a,b\"" = ⟨"Basic", some "a"⟩ := by
  decide +kernel

end BeanMeter.Challenge
