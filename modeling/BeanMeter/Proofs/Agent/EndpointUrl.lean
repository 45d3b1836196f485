import BeanMeter.Agent.Endpoint
import BeanMeter.Proofs.Net.Readers

/-! # The URL of an agent

An address is made of parts that a reader of URLs finds in them: the URL of the agent is a service
URL again, and names the same address, with the transport that the agent is reached by.

* `ServiceAddress.Serialized` — what is known of every address that a service URL names.
* `Endpoint.parse_url` — the URL of an agent names its address.
-/

namespace BeanMeter

/-! ## Addresses -/

namespace ServiceAddress

variable {readUrl : UrlReader} {a : ServiceAddress} {url : UrlView} {cs : List Char} {tls : Bool}

/-- An address whose parts are found in URLs, the path without slashes at its end. -/
structure Serialized (readUrl : UrlReader) (a : ServiceAddress) : Prop where
  found : readUrl.Found a.host a.port a.contextPath.toList
  bare : a.contextPath.toList.rdropWhile (· == '/') = a.contextPath.toList

/-! ### Reading an address -/

theorem hostOf_found (known : readUrl.RoundTrips) (reads : readUrl.Reads url) :
    hostOf url.host ≠ "" ∧ ∃ other, readUrl.Reads other ∧ other.host = some (hostOf url.host) := by
  have default : ∃ other, readUrl.Reads other ∧ other.host = some defaultHost :=
    ⟨_, ⟨_, _, known.names⟩, rfl⟩
  cases named : url.host with
  | none => exact ⟨by decide, default⟩
  | some host =>
    rw [hostOf]
    split
    · exact ⟨by decide, default⟩
    · next some => exact ⟨some, url, reads, named⟩

theorem contextPathOf_found (known : readUrl.RoundTrips) (reads : readUrl.Reads url) :
    (contextPathOf url.path).toList ≠ [] ∧ ∃ other, readUrl.Reads other ∧
      ((contextPathOf url.path).toList = other.path ∨
        (contextPathOf url.path).toList = other.path.rdropWhile (· == '/')) := by
  rw [contextPathOf]
  split
  · exact ⟨by simp [defaultContextPath], _, ⟨_, _, known.names⟩, .inl rfl⟩
  · next some =>
    rw [String.toList_ofList]
    exact ⟨some, url, reads, .inr rfl⟩

theorem contextPathOf_bare (path : List Char) :
    (contextPathOf path).toList.rdropWhile (· == '/') = (contextPathOf path).toList := by
  rw [contextPathOf]
  split
  · decide +kernel
  · rw [String.toList_ofList]
    exact List.rdropWhile_idempotent _ _

theorem contextPathOf_of_bare {path : String} (some : path.toList ≠ [])
    (bare : path.toList.rdropWhile (· == '/') = path.toList) : contextPathOf path.toList = path := by
  change (path.toList.reverse.dropWhile (· == '/')).reverse = path.toList at bare
  rw [contextPathOf, bare]
  split
  · next none => exact absurd none some
  · exact String.ofList_toList

theorem ofUrl_serialized (known : readUrl.RoundTrips) (ok : ofUrl readUrl tls cs = .ok a) :
    a.Serialized readUrl ∧ a.tls = tls := by
  unfold ofUrl at ok
  split at ok
  · cases ok
  · next url read =>
    split at ok
    · cases ok
    · next port named =>
      cases ok
      have reads : readUrl.Reads url := ⟨tls, cs, read⟩
      exact ⟨⟨⟨hostOf_found known reads, ⟨url, reads, named⟩, contextPathOf_found known reads⟩,
        contextPathOf_bare url.path⟩, rfl⟩

theorem ofUrl_written (known : readUrl.RoundTrips) (serialized : a.Serialized readUrl)
    (tls : Bool) :
    ofUrl readUrl tls (a.host.toList ++ ':' :: digitsOf a.port ++ a.contextPath.toList) =
      .ok { a with tls := tls } := by
  obtain ⟨found, bare⟩ := serialized
  have path := contextPathOf_of_bare found.path.1 bare
  have host : hostOf (some a.host) = a.host := if_neg found.host.1
  simp only [ofUrl, known.again found, path, host]

/-! ### Schemes -/

theorem parseChars_https (rest : List Char) :
    parseChars readUrl ("https://".toList ++ rest) = ofUrl readUrl true rest := by
  simp [parseChars, Text.stripStart?, Text.containsInfix, Text.splitInfix?]

theorem parseChars_http (rest : List Char) :
    parseChars readUrl ("http://".toList ++ rest) = ofUrl readUrl false rest := by
  simp [parseChars, Text.stripStart?, Text.containsInfix, Text.splitInfix?]

/-- URLs with the scheme of the encrypted transport. -/
def IsHttps (cs : List Char) : Prop := "https://".toList <+: cs

theorem isHttps_iff : IsHttps cs ↔ ∃ rest, Text.stripStart? "https://".toList cs = some rest := by
  rw [IsHttps, List.prefix_iff_exists_append_eq]
  exact exists_congr fun rest => by rw [Text.stripStart?_eq_some_iff, eq_comm]

/-- Of the three forms of a service URL only one with a scheme can ask for the encrypted
transport. -/
theorem parseChars_serialized (known : readUrl.RoundTrips) (ok : parseChars readUrl cs = .ok a) :
    a.Serialized readUrl ∧ (a.tls = true ↔ IsHttps cs) := by
  have plain {text : List Char} (read : ofUrl readUrl false text = .ok a)
      (other : ¬ IsHttps cs) : a.Serialized readUrl ∧ (a.tls = true ↔ IsHttps cs) := by
    obtain ⟨serialized, tls⟩ := ofUrl_serialized known read
    exact ⟨serialized, iff_of_false (Bool.eq_false_iff.mp tls) other⟩
  unfold parseChars at ok
  split at ok
  · next rest registry =>
    have other : ¬ IsHttps cs := by
      rw [Text.stripStart?_eq_some_iff.mp registry]
      simp [IsHttps]
    unfold ofRegistry at ok
    split at ok
    · cases ok
    · split at ok
      · exact plain ok other
      · cases ok
  · split at ok
    · split at ok
      · next rest _ encrypted =>
        obtain ⟨serialized, tls⟩ := ofUrl_serialized known ok
        exact ⟨serialized, iff_of_true tls (isHttps_iff.mpr ⟨_, encrypted⟩)⟩
      · next unencrypted _ =>
        exact plain ok (by rw [isHttps_iff, unencrypted]; simp)
      · cases ok
    · next noScheme =>
      -- A scheme ends in the colon and slashes that are missing here.
      have other : ¬ IsHttps cs := by
        rintro ⟨rest, rfl⟩
        apply noScheme
        simp [Text.stripStart?, Text.containsInfix, Text.splitInfix?]
      split at ok
      · exact plain ok other
      · cases ok

theorem parse_eq_ok_iff {serviceUrl : String} :
    parse serviceUrl readUrl = .ok a ↔
      parseChars readUrl (Text.trim serviceUrl).toList = .ok a := by
  unfold parse
  dsimp only
  split
  · next found => rw [found, Except.ok.injEq, Except.ok.injEq]
  · next found => simp [found]

end ServiceAddress

/-! ## The URL -/

namespace Endpoint

open ServiceAddress

variable {readUrl : UrlReader} {e : Endpoint}

theorem toList_url (e : Endpoint) : e.url.toList =
    e.transport.scheme.toList ++ "://".toList ++ (e.address.host.toList ++ ':' ::
      digitsOf e.address.port ++ e.address.contextPath.toList) := by
  simp [url, name, naturalText]

theorem parseChars_url (known : readUrl.RoundTrips) (serialized : e.address.Serialized readUrl) :
    parseChars readUrl e.url.toList = .ok { e.address with tls := e.isEncrypted } := by
  rw [toList_url, ← ofUrl_written known serialized]
  cases encrypted : e.isEncrypted with
  | true =>
    have scheme : e.transport.scheme.toList ++ "://".toList = "https://".toList := by
      simp [transport, encrypted, Transport.scheme]
    rw [scheme, parseChars_https]
  | false =>
    have scheme : e.transport.scheme.toList ++ "://".toList = "http://".toList := by
      simp [transport, encrypted, Transport.scheme]
    rw [scheme, parseChars_http]

/-- The URL begins with its scheme and ends with its path, which have no blanks in them. -/
theorem trim_url (known : readUrl.RoundTrips) (serialized : e.address.Serialized readUrl) :
    Text.trim e.url = e.url := by
  obtain ⟨some, other, reads, path⟩ := serialized.found.path
  have encoded : ∀ c ∈ e.address.contextPath.toList, Text.isBlank c = false := by
    intro c member
    refine known.encoded reads c ?_
    rcases path with same | same
    · rwa [same] at member
    · rw [same] at member
      exact (List.rdropWhile_prefix _ _).subset member
  have first : e.url.toList.head?.any Text.isBlank = false := by
    rw [toList_url]
    cases e.transport <;> simp [Transport.scheme, Text.isBlank]
  have last : e.url.toList.getLast?.any Text.isBlank = false := by
    rw [toList_url, ← List.append_assoc, List.getLast?_append_of_ne_nil _ some,
      ← List.head?_reverse]
    exact Text.head?_any_eq_false fun c member => encoded c (List.mem_reverse.mp member)
  rw [Text.trim, Text.trimChars_eq_self first last, String.ofList_toList]

/-- The URL of an agent names the address that the service URL named, and asks for an encrypted
transport where the service URL or the configuration did. Of the reader of URLs it is known that a
URL put together from parts of others is read as these parts. -/
theorem parse_url (known : readUrl.RoundTrips) {serviceUrl : String}
    (ok : ServiceAddress.parse serviceUrl readUrl = .ok e.address) :
    (∃ a, ServiceAddress.parse e.url readUrl = .ok a ∧ a.host = e.address.host ∧
      a.port = e.address.port ∧ a.contextPath = e.address.contextPath ∧
      (a.tls = true ↔ e.registrySsl = true ∨ IsHttps (Text.trim serviceUrl).toList)) ∧
    (e.transport = .encrypted ↔ e.registrySsl = true ∨ IsHttps (Text.trim serviceUrl).toList) := by
  obtain ⟨serialized, https⟩ := parseChars_serialized known (parse_eq_ok_iff.mp ok)
  have encrypted : e.isEncrypted = true ↔
      e.registrySsl = true ∨ IsHttps (Text.trim serviceUrl).toList := by
    rw [isEncrypted, Bool.or_eq_true, https]
  have transport : e.transport = .encrypted ↔ e.isEncrypted = true := by
    rw [Endpoint.transport]
    split <;> simp [*]
  refine ⟨⟨{ e.address with tls := e.isEncrypted }, ?_, rfl, rfl, rfl, encrypted⟩,
    transport.trans encrypted⟩
  rw [parse_eq_ok_iff, trim_url known serialized, parseChars_url known serialized]

/-- An agent whose service URL does not ask for the encrypted transport, but whose configuration
does. -/
def sampleEncrypted : Endpoint := ⟨⟨"[::1]", 80, "/app", false⟩, none, none, none, none, true⟩

theorem sample_url : Url.reader.RoundTrips ∧
    ServiceAddress.parse " http://[0:0::1]/app/ " = .ok sampleEncrypted.address ∧
    sampleEncrypted.url = "https://[::1]:80/app" ∧
    (∃ a, ServiceAddress.parse sampleEncrypted.url = .ok a ∧ a.host = "[::1]" ∧ a.port = 80 ∧
      a.contextPath = "/app" ∧
      (a.tls = true ↔ true = true ∨ IsHttps (Text.trim " http://[0:0::1]/app/ ").toList)) ∧
    (sampleEncrypted.transport = .encrypted ↔
      true = true ∨ IsHttps (Text.trim " http://[0:0::1]/app/ ").toList) := by
  have read : ServiceAddress.parse " http://[0:0::1]/app/ " = .ok sampleEncrypted.address :=
    Except.toOption_eq_some_iff.mp (by decide +kernel)
  exact ⟨Url.reader_roundTrips, read, by decide +kernel, parse_url Url.reader_roundTrips read⟩

end Endpoint

end BeanMeter
