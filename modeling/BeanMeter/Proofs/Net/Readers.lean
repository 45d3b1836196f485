import BeanMeter.Proofs.Net.Authorities
import BeanMeter.Proofs.Net.Urls

/-! # Readers of URLs

What a program may rely on of a reader of URLs, whichever reader it is given, and that the reader it
is run with is one of those.

* `UrlReader.Found` — the parts that a reader finds in URLs.
* `UrlReader.RoundTrips` — a URL put together from such parts is read as these parts.
* `UrlReader.FindsPorts` — the port of a URL is the one that its authority has.
* `Url.reader_roundTrips`, `Url.reader_findsPorts` — the reader that the program is run with.
-/

namespace BeanMeter

/-! ## What is relied on -/

namespace UrlReader

/-- A reader reads some text as a URL. -/
def Reads (readUrl : UrlReader) (url : UrlView) : Prop := ∃ tls cs, readUrl tls cs = .ok url

/-- A host, a port and a path that a reader finds in URLs, not necessarily in the same one, of the
path possibly without the slashes at its end. -/
structure Found (readUrl : UrlReader) (host : String) (port : Nat) (path : List Char) :
    Prop where
  host : host ≠ "" ∧ ∃ url, readUrl.Reads url ∧ url.host = some host
  port : ∃ url, readUrl.Reads url ∧ url.port = some port
  path : path ≠ [] ∧ ∃ url, readUrl.Reads url ∧
    (path = url.path ∨ path = url.path.rdropWhile (· == '/'))

/-- The parts of a URL are serialized: put together they are a URL with these parts. -/
structure RoundTrips (readUrl : UrlReader) : Prop where
  again : ∀ {host port path}, readUrl.Found host port path → ∀ tls,
    readUrl tls (host.toList ++ ':' :: digitsOf port ++ path) = .ok ⟨some host, some port, path⟩
  /-- A path is percent-encoded. -/
  encoded : ∀ {url}, readUrl.Reads url → ∀ c ∈ url.path, Text.isBlank c = false
  /-- A name in lower case letters is a host as it is, and as part of a path too. -/
  names : readUrl false "localhost/jolokia".toList =
    .ok ⟨some "localhost", some 80, "/jolokia".toList⟩

/-- A URL has the port of its authority, or else the one that is known for its scheme. -/
def FindsPorts (readUrl : UrlReader) : Prop :=
  ∀ {tls cs url}, readUrl tls cs = .ok url →
    ∃ port, url.port = some port ∧ Url.AuthorityPort (Url.knownPort tls) (Url.authority cs) port

end UrlReader

/-! ## Slashes at the end -/

namespace UrlPath

variable {segs : List (List Char)}

theorem dropSlashes_eq_self (each : ∀ s ∈ segs, Segment s) (ends : segs.getLast? ≠ some []) :
    (join segs).rdropWhile (· == '/') = join segs := by
  rcases List.eq_nil_or_concat' segs with rfl | ⟨front, last, rfl⟩
  · rfl
  · have some : last ≠ [] := by simpa using ends
    obtain ⟨s, c, rfl⟩ := (List.eq_nil_or_concat' last).resolve_left some
    have clear := ((each (s ++ [c]) (by simp)).clear c (by simp)).2
    have noSlash : ¬ (c == '/') = true := by
      simp [isSlash] at clear
      simpa using clear.1
    have whole : join (front ++ [s ++ [c]]) = (join front ++ '/' :: s) ++ [c] := by simp [join]
    rw [whole, List.rdropWhile_concat_neg (· == '/') _ c noSlash]

theorem exists_dropSlashes_eq_join (each : ∀ s ∈ segs, Segment s) :
    ∃ kept, (∀ s ∈ kept, Segment s) ∧ (join segs).rdropWhile (· == '/') = join kept := by
  induction segs using List.reverseRecOn with
  | nil => exact ⟨[], by simp, rfl⟩
  | append_singleton segs s ih =>
    -- An empty last segment is a slash at the end; any other one ends in something else.
    by_cases empty : s = []
    · obtain ⟨kept, segments, dropped⟩ := ih (List.forall_mem_append.mp each).1
      refine ⟨kept, segments, ?_⟩
      have whole : join (segs ++ [s]) = join segs ++ ['/'] := by simp [join, empty]
      rw [whole, List.rdropWhile_concat_pos (· == '/') _ '/' rfl, dropped]
    · have ends : (segs ++ [s]).getLast? ≠ some [] := by simpa using empty
      exact ⟨segs ++ [s], each, dropSlashes_eq_self each ends⟩

end UrlPath

/-! ## The reader that the program is run with -/

namespace Url

open UrlPath UrlHost

theorem reader_eq_ok_iff {tls : Bool} {cs : List Char} {found : UrlView} :
    reader tls cs = .ok found ↔ ∃ url, parse cs = .ok url ∧ url.view tls = found := by
  simp only [reader, Except.map_eq_ok_iff, Except.mapError_eq_ok_iff]

theorem normal_of_reads {found : UrlView} (reads : reader.Reads found) :
    ∃ tls url, Normal url ∧ url.view tls = found := by
  obtain ⟨tls, cs, ok⟩ := reads
  obtain ⟨url, read, same⟩ := reader_eq_ok_iff.mp ok
  exact ⟨tls, url, parse_normal read, same⟩

theorem isBlank_of_isPrinted {c : Char} (printed : IsPrinted c) : Text.isBlank c = false := by
  obtain ⟨above, below⟩ := printed
  simp [Text.isBlank]
  omega

theorem reader_found {host : String} {port : Nat} {path : List Char}
    (found : reader.Found host port path) :
    UrlHost.parse host.toList = .ok host ∧ Written host.toList ∧ port < 0x10000 ∧
      ∃ segs, segs ≠ [] ∧ (∀ s ∈ segs, Segment s) ∧ path = join segs := by
  -- The parts may come from three URLs, each of which is normal because it was read.
  obtain ⟨⟨-, _, hostReads, hostIs⟩, ⟨_, portReads, portIs⟩, some, _, pathReads, pathIs⟩ := found
  obtain ⟨_, _, hostNormal, rfl⟩ := normal_of_reads hostReads
  obtain ⟨tls, url, portNormal, rfl⟩ := normal_of_reads portReads
  obtain ⟨_, _, ⟨-, -, -, segs, someSegs, each, joined⟩, rfl⟩ := normal_of_reads pathReads
  cases Option.some.inj hostIs
  refine ⟨hostNormal.own, hostNormal.written, ?_, ?_⟩
  · rw [← Option.some.inj portIs]
    cases named : url.port with
    | none => cases tls <;> decide
    | some p => exact portNormal.port p named
  · rcases pathIs with rfl | rfl
    · exact ⟨segs, someSegs, each, joined⟩
    · obtain ⟨kept, segments, dropped⟩ := exists_dropSlashes_eq_join each
      dsimp only [view] at some ⊢
      rw [joined, dropped] at some ⊢
      exact ⟨kept, fun none => some (by simp [none, join]), segments, rfl⟩

theorem reader_roundTrips : reader.RoundTrips where
  again := by
    intro host port path found tls
    obtain ⟨own, written, fits, segs, some, each, rfl⟩ := reader_found found
    rw [reader_eq_ok_iff]
    exact ⟨_, parse_written own written fits some each, rfl⟩
  encoded := by
    intro found reads c member
    obtain ⟨_, _, ⟨-, -, -, segs, -, each, joined⟩, rfl⟩ := normal_of_reads reads
    dsimp only [view] at member
    rw [joined] at member
    exact isBlank_of_isPrinted (printed_of_mem_join each member).1
  names := Except.toOption_eq_some_iff.mp (by decide +kernel)

theorem reader_findsPorts : reader.FindsPorts := by
  intro tls cs found ok
  obtain ⟨url, read, rfl⟩ := reader_eq_ok_iff.mp ok
  exact ⟨_, rfl, authorityPort_of_parse read⟩

end Url

end BeanMeter
