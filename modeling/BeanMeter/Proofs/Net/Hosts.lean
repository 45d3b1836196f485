import BeanMeter.Proofs.Net.Addresses

/-! # Normal hosts

The host that a URL is read as is in a normal form: it can stand in front of a port, and is read
as itself.

* `UrlHost.Written` — hosts that end at the colon after them.
* `UrlHost.parse_domain`, `UrlHost.parse_ipv4Text`, `UrlHost.parse_ipv6Text` — what is read of
  hosts in their normal form.
* `UrlHost.parse_self` — a host is read as itself.
-/

namespace BeanMeter.UrlHost

variable {host : List Char} {text : String}

/-! ## Characters -/

/-- Printed ASCII characters. -/
def IsPrinted (c : Char) : Prop := 0x20 < c.toNat ∧ c.toNat < 0x7f

/-- The characters of an authority without a user. -/
def InAuthority (c : Char) : Prop := IsPrinted c ∧ c ∉ ['/', '\\', '?', '#', '@']

/-- A host as it can stand in front of a colon. -/
structure Written (host : List Char) : Prop where
  some : host ≠ []
  clear : ∀ c ∈ host, InAuthority c
  splits : ∀ rest, Url.splitHost false (host ++ ':' :: rest) = (host, ':' :: rest)

theorem inAuthority_of_plain {c : Char} (plain : DomainName.Plain c) :
    InAuthority c ∧ c ∉ [':', '[', '%'] := by
  obtain ⟨⟨ascii, -⟩, allowed⟩ := plain
  simp [DomainName.isForbidden] at allowed
  simp [InAuthority, IsPrinted]
  exact ⟨⟨⟨by omega, by omega⟩, by tauto⟩, by tauto⟩

theorem percentDecode_ascii (clear : ∀ c ∈ host, c.toNat < 0x80 ∧ c ≠ '%') :
    percentDecode host = host.map fun c => c.toNat.toUInt8 := by
  induction host with
  | nil => rfl
  | cons c cs ih =>
    obtain ⟨⟨ascii, noPercent⟩, others⟩ := List.forall_mem_cons.mp clear
    have own : percentDecode (c :: cs) = Text.Utf8.encodeChar c ++ percentDecode cs := by
      rw [percentDecode.eq_def]
      split
      · next same => exact absurd (List.cons.inj same).1 noPercent
      · next same =>
        cases same
        rfl
      · contradiction
    rw [own, ih others, Text.Utf8.encodeChar, if_pos ascii, List.map_cons, List.singleton_append]

theorem decodePieces_ascii (ascii : ∀ c ∈ host, c.toNat < 0x80) :
    Text.Utf8.decodePieces (host.map fun c => c.toNat.toUInt8) = host.map some := by
  induction host with
  | nil => rw [List.map_nil, Text.Utf8.decodePieces, List.map_nil]
  | cons c cs ih =>
    obtain ⟨own, others⟩ := List.forall_mem_cons.mp ascii
    have byte : c.toNat.toUInt8.toNat = c.toNat := Nat.mod_eq_of_lt (by omega)
    have single : Text.Utf8.sequenceLength c.toNat.toUInt8 = 1 := by
      rw [Text.Utf8.sequenceLength, if_pos]
      rw [UInt8.lt_iff_toNat_lt, byte]
      exact own
    rw [List.map_cons, Text.Utf8.decodePieces, ih others, byte, Char.ofNat_toNat, List.map_cons]
    exact single

theorem decodeStrict?_percentDecode (clear : ∀ c ∈ host, c.toNat < 0x80 ∧ c ≠ '%') :
    Text.Utf8.decodeStrict? (percentDecode host) = .some (String.ofList host) := by
  have whole : (host.map some).mapM id = .some host := by
    rw [mapM_eq_some_iff_forall₂, List.forall₂_map_left_iff]
    exact List.forall₂_same.mpr fun c _ => rfl
  rw [percentDecode_ascii clear, Text.Utf8.decodeStrict?,
    decodePieces_ascii fun c member => (clear c member).1, whole]
  rfl

/-! ## Domains -/

theorem splitHost_domain (plain : ∀ c ∈ host, c ≠ ':' ∧ c ≠ '[') (rest : List Char) :
    Url.splitHost false (host ++ ':' :: rest) = (host, ':' :: rest) := by
  induction host with
  | nil => simp [Url.splitHost]
  | cons c cs ih =>
    obtain ⟨⟨noColon, noBracket⟩, others⟩ := List.forall_mem_cons.mp plain
    have stays : (if c = '[' then true else if c = ']' then false else false) = false := by
      simp [noBracket]
    rw [List.cons_append, Url.splitHost, if_neg (fun both => noColon both.1), stays]
    dsimp only
    rw [ih others]

theorem written_domain (some : host ≠ []) (plain : ∀ c ∈ host, DomainName.Plain c) :
    Written host where
  some := some
  clear c member := (inAuthority_of_plain (plain c member)).1
  splits := by
    apply splitHost_domain
    intro c member
    have apart := (inAuthority_of_plain (plain c member)).2
    simp only [List.mem_cons, not_or] at apart
    exact ⟨apart.1, apart.2.1⟩

/-- A domain in its ASCII form is not changed any more. -/
theorem parse_domain (some : host ≠ []) (plain : ∀ c ∈ host, DomainName.Plain c)
    (own : DomainName.toAscii? host = .some host) :
    parse host = if endsInNumber host then (readIpv4Parts (numberParts host)).map ipv4Text
      else .ok (String.ofList host) := by
  have apart : ∀ c ∈ host, c ≠ '[' ∧ c ≠ '%' := by
    intro c member
    have apart := (inAuthority_of_plain (plain c member)).2
    simp only [List.mem_cons, not_or] at apart
    exact ⟨apart.2.1, apart.2.2.1⟩
  have clear : ∀ c ∈ host, c.toNat < 0x80 ∧ c ≠ '%' := fun c member =>
    ⟨(plain c member).1.1, (apart c member).2⟩
  unfold parse
  split
  · contradiction
  · exact absurd rfl (apart '[' List.mem_cons_self).1
  · rw [decodeStrict?_percentDecode clear, Option.bind_some, String.toList_ofList, own]
    cases host with
    | nil => contradiction
    | cons c cs => rfl

/-! ## Addresses -/

theorem plain_of_isDigit {c : Char} (digit : isDigit c = true) : DomainName.Plain c ∧ c ≠ '.' := by
  have within := isDigit_iff.mp digit
  have all : ∀ n : Fin 0x80, isDigit (Char.ofNat n) = true →
      DomainName.isForbidden (Char.ofNat n) = false := by decide +kernel
  have allowed := all ⟨c.toNat, by omega⟩
  rw [Char.ofNat_toNat] at allowed
  exact ⟨⟨⟨by omega, DomainName.stays_of_ascii (by omega) (by omega)⟩, allowed digit⟩,
    not_dot_of_isDigit digit⟩

theorem inAuthority_of_mem_digitsOf {n : Nat} {c : Char} (member : c ∈ digitsOf n) :
    InAuthority c :=
  (inAuthority_of_plain (plain_of_isDigit (isDigit_of_mem_digitsOf member)).1).1

theorem labelToAscii?_digits {ds : List Char} (digits : ds.all isDigit = true) :
    DomainName.labelToAscii? ds = .some ds := by
  rw [List.all_eq_true] at digits
  have unmarked : Text.stripStart? DomainName.mark ds = none := by
    rw [Option.eq_none_iff_forall_ne_some]
    intro rest marked
    have start : ds = DomainName.mark ++ rest := Text.stripStart?_eq_some_iff.mp marked
    cases digits 'x' (by simp [start, DomainName.mark])
  have ascii := DomainName.all_ascii fun c member => plain_of_isDigit (digits c member)
  rw [DomainName.labelToAscii?, if_pos ascii, unmarked]

theorem parse_ipv4Text {octets : List Nat} (address : IsIpv4 octets) :
    parse (ipv4Text octets).toList = .ok (ipv4Text octets) ∧ Written (ipv4Text octets).toList := by
  have some : octets ≠ [] := List.ne_nil_of_length_pos (by rw [address.1]; decide)
  have plain : ∀ ds ∈ octets.map digitsOf, ∀ c ∈ ds, DomainName.Plain c ∧ c ≠ '.' := by
    rw [List.forall_mem_map]
    exact fun n _ c member => plain_of_isDigit (isDigit_of_mem_digitsOf member)
  have own : DomainName.toAscii? (ipv4Text octets).toList = .some (ipv4Text octets).toList := by
    rw [toList_ipv4Text]
    apply DomainName.toAscii?_intercalate (by simpa using some) plain
    rw [List.forall_mem_map]
    exact fun n _ => labelToAscii?_digits (all_isDigit_digitsOf n)
  have whole := DomainName.plain_intercalate plain
  rw [← toList_ipv4Text] at whole
  have visible : (ipv4Text octets).toList ≠ [] := by
    intro none
    have parts := numberParts_ipv4Text some
    rw [none] at parts
    have short := congrArg List.length parts
    rw [List.length_map, address.1] at short
    cases short
  refine ⟨?_, written_domain visible whole⟩
  rw [parse_domain visible whole own, if_pos (endsInNumber_ipv4Text some),
    numberParts_ipv4Text some, readIpv4Parts_digitsOf address]
  rfl

theorem splitHost_brackets {inside : List Char} (closed : ']' ∉ inside) (rest : List Char) :
    Url.splitHost true (inside ++ ']' :: ':' :: rest) = (inside ++ [']'], ':' :: rest) := by
  induction inside with
  | nil => simp [Url.splitHost]
  | cons c cs ih =>
    rw [List.mem_cons, not_or] at closed
    have stays : (if c = '[' then true else if c = ']' then false else true) = true := by
      simp [Ne.symm closed.1]
    rw [List.cons_append, Url.splitHost, if_neg (fun both => Bool.noConfusion both.2), stays]
    dsimp only
    rw [ih closed.2]
    rfl

theorem mem_ipv6Text {groups : List Nat} {c : Char} (member : c ∈ (ipv6Text groups).toList) :
    c = ':' ∨ (hexValue? c).isSome = true := by
  have digit (n : Nat) : ∀ c ∈ shortHex n, (hexValue? c).isSome = true := by
    intro c member
    unfold shortHex at member
    split at member
    · rw [List.mem_singleton.mp member]
      rfl
    · obtain ⟨d, small, rfl⟩ := mem_hexDigits ((List.dropWhile_sublist _).subset member)
      exact Option.isSome_of_eq_some (hexValue?_digitChar false small)
  have text (gs : List Nat) : ∀ c ∈ groupsText gs, c = ':' ∨ (hexValue? c).isSome = true := by
    rw [groupsText_eq]
    apply Text.forall_mem_intercalate
    · simp
    · rw [List.forall_mem_map]
      exact fun n _ c member => .inr (digit n c member)
  rw [ipv6Text] at member
  dsimp only at member
  split at member
  · exact text _ c (by simpa using member)
  · simp only [String.toList_ofList, List.mem_append] at member
    rcases member with (before | colons) | after
    · exact text _ c before
    · exact .inl (by simpa using colons)
    · exact text _ c after

theorem inAuthority_of_hexValue? {c : Char} (digit : (hexValue? c).isSome = true) :
    InAuthority c := by
  obtain ⟨v, value⟩ := Option.isSome_iff_exists.mp digit
  rw [hexValue?_eq_some_iff] at value
  have all : ∀ n : Fin 0x80, (hexValue? (Char.ofNat n)).isSome = true →
      Char.ofNat n ∉ ['/', '\\', '?', '#', '@'] := by decide +kernel
  have apart := all ⟨c.toNat, by omega⟩
  rw [Char.ofNat_toNat] at apart
  exact ⟨⟨by omega, by omega⟩, apart digit⟩

theorem parse_ipv6Text {groups : List Nat} (small : ∀ g ∈ groups, g < 0x10000)
    (eight : groups.length = 8) :
    parse ("[" ++ ipv6Text groups ++ "]").toList = .ok ("[" ++ ipv6Text groups ++ "]") ∧
      Written ("[" ++ ipv6Text groups ++ "]").toList := by
  have whole : ("[" ++ ipv6Text groups ++ "]").toList =
      '[' :: ((ipv6Text groups).toList ++ [']']) := by simp
  have closed : ']' ∉ (ipv6Text groups).toList := by
    intro member
    rcases mem_ipv6Text member with same | digit
    · cases same
    · cases digit
  refine ⟨?_, ⟨by simp [whole], ?_, ?_⟩⟩
  · rw [whole, parse, if_pos List.getLast?_concat, List.dropLast_concat,
      readIpv6Groups?_ipv6Text small eight]
  · have marks : ∀ c ∈ [':', '[', ']'], InAuthority c := by simp [InAuthority, IsPrinted]
    rw [whole, List.forall_mem_cons, List.forall_mem_append]
    refine ⟨marks '[' (by simp), fun c member => ?_, by simpa using marks ']' (by simp)⟩
    rcases mem_ipv6Text member with rfl | digit
    · exact marks ':' (by simp)
    · exact inAuthority_of_hexValue? digit
  · intro rest
    have inside := splitHost_brackets closed rest
    rw [whole, List.cons_append, Url.splitHost, if_neg (by simp), if_pos rfl]
    dsimp only
    rw [List.append_assoc, List.singleton_append, inside]

/-- A host is read as itself. -/
theorem parse_self (ok : parse host = .ok text) :
    parse text.toList = .ok text ∧ Written text.toList := by
  unfold parse at ok
  split at ok
  · cases ok
  · split at ok
    · split at ok
      · next groups read =>
        cases ok
        obtain ⟨eight, small⟩ := of_readIpv6Groups? read
        exact parse_ipv6Text small eight
      · cases ok
    · cases ok
  · split at ok
    · cases ok
    · cases ok
    -- What the escapes hid has been seen by now: the ASCII form needs none.
    · next domain some found =>
      obtain ⟨s, -, ascii⟩ := Option.bind_eq_some_iff.mp found
      obtain ⟨plain, own⟩ := DomainName.toAscii?_self ascii
      split at ok
      · obtain ⟨octets, read, same⟩ := Except.map_eq_ok_iff.mp ok
        rw [← same]
        exact parse_ipv4Text (of_readIpv4Parts read)
      · next noNumber =>
        cases ok
        rw [String.toList_ofList, parse_domain some plain own, if_neg noNumber]
        exact ⟨rfl, written_domain some plain⟩

end BeanMeter.UrlHost
