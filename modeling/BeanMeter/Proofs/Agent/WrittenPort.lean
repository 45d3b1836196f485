import BeanMeter.Proofs.Agent.EndpointUrl
import BeanMeter.Proofs.Net.Authorities

/-! # Written ports

A service URL without the scheme of a transport has to name a port. Whether it does is told from
the last colon of the text, before the text is read as a URL, so that a colon in a path, a password
or an address is taken for one in front of a port, and the port of the scheme is filled in.

* `ServiceAddress.hasPort_iff_writesPort` — where the last colon tells the truth.
* `ServiceAddress.ReadAs` — what is read as a URL, and what passes for its authority.
* `ServiceAddress.port_written` — which port a service URL has.
-/

namespace BeanMeter.ServiceAddress

variable {readUrl : UrlReader} {cs rest authority text : List Char} {a : ServiceAddress}

/-- What is told from the last colon is right where there are neither users nor brackets. -/
theorem hasPort_iff_writesPort (noUser : '@' ∉ text) (noBracket : ']' ∉ text) :
    hasPort text = true ↔ WritesPort text := by
  rw [hasPort, Bool.and_eq_true, List.contains_iff_mem, bne_iff_ne]
  constructor
  · rintro ⟨colon, last⟩
    obtain ⟨ds, before, found, apart⟩ := List.eq_append_cons_of_mem (List.mem_reverse.mpr colon)
    have suffix : ':' :: ds.reverse <:+ text := by
      rw [← List.reverse_prefix, List.reverse_cons, List.reverse_reverse, found]
      exact ⟨before, by simp⟩
    refine ⟨ds.reverse, ?_, fun c member => ?_, suffix⟩
    · intro none
      rw [none] at suffix
      obtain ⟨front, rfl⟩ := suffix
      exact last List.getLast?_concat
    · have among : c ∈ text := suffix.subset (List.mem_cons_of_mem _ member)
      simp only [List.mem_cons, List.not_mem_nil, or_false, not_or]
      refine ⟨?_, ?_, ?_⟩ <;> rintro rfl
      · exact apart (List.mem_reverse.mp member)
      · exact noUser among
      · exact noBracket among
  · rintro ⟨ds, some, clear, suffix⟩
    refine ⟨suffix.subset List.mem_cons_self, ?_⟩
    rw [getLast?_of_colon_suffix some suffix, ne_eq, Option.some_inj]
    intro last
    exact clear _ (List.getLast_mem some) (by simp [last])

/-- Service URLs with the scheme of a transport. -/
def IsHttp (cs : List Char) : Prop := "http://".toList <+: cs ∨ IsHttps cs

/-- The authority of a service URL without the scheme of a transport, and the text that is read as a
URL for it, after it has been looked at for a port. -/
inductive ReadAs (cs : List Char) : List Char → List Char → Prop
  | registry {rest authority : List Char} (start : cs = "service:jmx:".toList ++ rest)
      (found : registryAuthority? rest = some authority) (checked : hasPort authority = true) :
      ReadAs cs authority
        ((if authority.head? = some ':' then defaultHost.toList else []) ++ authority)
  | plain (noRegistry : ¬ "service:jmx:".toList <+: cs)
      (noScheme : Text.containsInfix "://".toList cs = false) (checked : hasPort cs = true) :
      ReadAs cs (cs.takeWhile fun c => c != '/' && c != '?' && c != '#') cs

theorem exists_readAs (ok : parseChars readUrl cs = .ok a) (other : ¬ IsHttp cs) :
    ∃ authority text, ReadAs cs authority text ∧ ofUrl readUrl false text = .ok a := by
  unfold parseChars at ok
  split at ok
  · next rest registry =>
    unfold ofRegistry at ok
    split at ok
    · cases ok
    · next authority found =>
      split at ok
      · next checked =>
        exact ⟨_, _, .registry (Text.stripStart?_eq_some_iff.mp registry) found checked, ok⟩
      · cases ok
  · next noRegistry =>
    split at ok
    · split at ok
      · next encrypted => exact absurd (.inr (isHttps_iff.mpr ⟨_, encrypted⟩)) other
      · next unencrypted =>
        rw [Text.stripStart?_eq_some_iff] at unencrypted
        exact absurd (.inl ⟨_, unencrypted.symm⟩) other
      · cases ok
    · next noScheme =>
      split at ok
      · next checked =>
        refine ⟨_, _, .plain ?_ (by simpa using noScheme) checked, ok⟩
        rintro ⟨rest, same⟩
        rw [Text.stripStart?_eq_some_iff.mpr same.symm] at noRegistry
        cases noRegistry
      · cases ok

theorem ReadAs.exists_authority_eq (read : ReadAs cs authority text) (tidy : Url.Tidy authority) :
    ∃ lead, ':' ∉ lead ∧ Url.authority text = lead ++ authority := by
  cases read with
  | registry =>
    have clear : ∀ c ∈ defaultHost.toList, c ≠ ':' ∧ 0x20 < c.toNat ∧
        Url.endsAuthority c = false := by
      simp [defaultHost, Url.endsAuthority, UrlPath.isSlash]
    generalize shape : (if authority.head? = some ':' then defaultHost.toList else []) = lead
    -- Whether or not the host is filled in, what stands before the authority has no colon.
    have own : ∀ c ∈ lead, c ≠ ':' ∧ 0x20 < c.toNat ∧ Url.endsAuthority c = false := by
      rw [← shape]
      split
      · exact clear
      · simp
    have whole : Url.Tidy (lead ++ authority) := by
      refine ⟨by simp [tidy.some], List.forall_mem_append.mpr ⟨?_, tidy.clear⟩⟩
      exact fun c member => (own c member).2
    refine ⟨lead, fun colon => (own ':' colon).1 rfl, ?_⟩
    have alone : Url.authority (lead ++ authority ++ []) = lead ++ authority :=
      Url.authority_append whole (by simp)
    rwa [List.append_nil] at alone
  | plain =>
    refine ⟨[], by simp, ?_⟩
    -- The text goes on with one of the characters at which the authority was cut off.
    have stop : ∀ c ∈ (cs.dropWhile fun c => c != '/' && c != '?' && c != '#').head?,
        0x20 < c.toNat ∧ Url.endsAuthority c = true := by
      intro c member
      have ends := List.head?_dropWhile_not (fun c => c != '/' && c != '?' && c != '#') cs
      rw [member] at ends
      have marks : c = '/' ∨ c = '?' ∨ c = '#' := by
        by_contra other
        simp only [not_or] at other
        simp [other] at ends
      rcases marks with rfl | rfl | rfl <;> decide
    have own := Url.authority_append tidy stop
    rwa [List.takeWhile_append_dropWhile] at own

theorem ofUrl_port (finds : readUrl.FindsPorts) (ok : ofUrl readUrl false cs = .ok a) :
    EndsInPort a.port (Url.authority cs) ∨ a.port = 80 ∧ ¬ WritesPort (Url.authority cs) := by
  unfold ofUrl at ok
  split at ok
  · cases ok
  · next url read =>
    obtain ⟨port, named, has⟩ := finds read
    simp only [named] at ok
    cases ok
    exact has.endsInPort_or

/-- The port of an address without the scheme of a transport is the number with which the authority
ends, or that of the scheme if none is written there. An authority that a URL leaves as it is ends
in this port if and only if it writes one at all. It does so where it passes the check itself and
has neither a user nor brackets. Of the reader of URLs it is known that it finds the port of an
authority behind its user and host. -/
theorem port_written (finds : readUrl.FindsPorts) {serviceUrl : String}
    (ok : parse serviceUrl readUrl = .ok a) (other : ¬ IsHttp (Text.trim serviceUrl).toList) :
    ∃ authority text, ReadAs (Text.trim serviceUrl).toList authority text ∧
      (EndsInPort a.port (Url.authority text) ∨
        a.port = 80 ∧ ¬ WritesPort (Url.authority text)) ∧
      (Url.Tidy authority →
        (EndsInPort a.port authority ↔ WritesPort authority) ∧
        (hasPort authority = true → '@' ∉ authority → ']' ∉ authority →
          EndsInPort a.port authority)) := by
  obtain ⟨authority, text, read, url⟩ := exists_readAs (parse_eq_ok_iff.mp ok) other
  have port := ofUrl_port finds url
  refine ⟨authority, text, read, port, fun tidy => ?_⟩
  obtain ⟨lead, clear, same⟩ := read.exists_authority_eq tidy
  rw [same, endsInPort_append_iff clear, writesPort_append_iff clear] at port
  have ends (writes : WritesPort authority) : EndsInPort a.port authority :=
    port.resolve_right fun unwritten => unwritten.2 writes
  refine ⟨⟨EndsInPort.writesPort, ends⟩, fun checked noUser noBracket => ?_⟩
  exact ends ((hasPort_iff_writesPort noUser noBracket).mp checked)

/-- The colons of the user and of the address in brackets say nothing about the port. -/
theorem sample_port_written : Url.reader.FindsPorts ∧
    parse "u:p@[::1]:8080/app" = .ok ⟨"[::1]", 8080, "/app", false⟩ ∧
      ¬ IsHttp (Text.trim "u:p@[::1]:8080/app").toList ∧
      ∃ authority text, ReadAs (Text.trim "u:p@[::1]:8080/app").toList authority text ∧
        EndsInPort 8080 (Url.authority text) := by
  have read : parse "u:p@[::1]:8080/app" = .ok ⟨"[::1]", 8080, "/app", false⟩ :=
    Except.toOption_eq_some_iff.mp (by decide +kernel)
  have other : ¬ IsHttp (Text.trim "u:p@[::1]:8080/app").toList := by
    rw [IsHttp, IsHttps]
    decide +kernel
  obtain ⟨authority, text, same, port, -⟩ := port_written Url.reader_findsPorts read other
  exact ⟨Url.reader_findsPorts, read, other, authority, text, same, port.resolve_right (by simp)⟩

/-- A colon in the path, or within the brackets of an address, passes for one in front of a port,
where a registry URL with the same authority and path is refused. -/
theorem sample_port_missing :
    parse "h/a:1" = .ok ⟨"h", 80, "/a:1", false⟩ ∧ ¬ IsHttp "h/a:1".toList ∧
      ReadAs "h/a:1".toList "h".toList "h/a:1".toList ∧ (∀ port, ¬ EndsInPort port "h".toList) ∧
      parse "[::1]" = .ok ⟨"[::1]", 80, "/jolokia", false⟩ ∧
      parseChars Url.reader "service:jmx:rmi:///jndi/rmi://h/a:1".toList =
        .error .missingPort := by
  have other : ¬ IsHttp "h/a:1".toList := by
    rw [IsHttp, IsHttps]
    decide +kernel
  have bare (port : Nat) : ¬ EndsInPort port "h".toList := by
    rintro ⟨ds, -, -, -, suffix⟩
    have colon : ':' ∈ "h".toList := suffix.subset List.mem_cons_self
    simp at colon
  exact ⟨Except.toOption_eq_some_iff.mp (by decide +kernel), other,
    .plain (by decide +kernel) (by decide +kernel) (by decide +kernel), bare,
    Except.toOption_eq_some_iff.mp (by decide +kernel), rfl⟩

end BeanMeter.ServiceAddress
