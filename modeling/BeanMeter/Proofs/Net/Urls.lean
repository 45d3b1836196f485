import BeanMeter.Proofs.Net.Hosts
import Mathlib.Data.List.Induction

/-! # Normal URLs

The path that a URL is read as is in a normal form, and a URL put together from a host, a port and a
path in their normal forms is read as these.

* `UrlPath.Segment` — the segments of normal paths.
* `UrlPath.exists_normalize_eq_join`, `UrlPath.normalize_join` — normal paths are made of such
  segments, and are their own normal forms.
* `Url.parse_normal` — the parts of every URL are in their normal form.
* `Url.parse_written` — a URL is read as what it was put together from.
-/

namespace BeanMeter

/-! ## Paths -/

namespace UrlPath

variable {cs s : List Char} {segs dirs : List (List Char)}

/-- A segment of a path in its normal form. -/
structure Segment (s : List Char) : Prop where
  clear : ∀ c ∈ s, isEncoded c = false ∧ isSlash c = false
  stays : plainDots s ≠ ['.'] ∧ plainDots s ≠ ['.', '.']

/-- The path of some segments. -/
def join (segs : List (List Char)) : List Char := segs.flatMap fun s => '/' :: s

theorem join_append (segs others : List (List Char)) :
    join (segs ++ others) = join segs ++ join others := List.flatMap_append

theorem segment_nil : Segment [] := ⟨by simp, by simp [plainDots]⟩

/-! ### What normal paths are -/

theorem not_isSlash_of_mem_segments : ∀ s ∈ segments cs, ∀ c ∈ s, isSlash c = false := by
  induction cs with
  | nil => simp [segments]
  | cons c cs ih =>
    unfold segments
    split
    · simpa using ih
    · next other =>
      rw [Bool.not_eq_true] at other
      split
      · simpa using other
      · next s ss found =>
        rw [found, List.forall_mem_cons] at ih
        simpa [other] using ih

theorem encodeSegment_clear (clear : ∀ c ∈ s, isSlash c = false) :
    ∀ c ∈ encodeSegment s, isEncoded c = false ∧ isSlash c = false := by
  have percent (b : UInt8) : ∀ c ∈ percentByte b, isEncoded c = false ∧ isSlash c = false := by
    have digits : ∀ d : Fin 16, isEncoded (digitChar d).toUpper = false ∧
        isSlash (digitChar d).toUpper = false := by decide +kernel
    intro c member
    rcases List.mem_cons.mp member with rfl | member
    · decide
    · obtain ⟨x, among, rfl⟩ := List.mem_map.mp member
      obtain ⟨d, small, rfl⟩ := mem_hexDigits among
      exact digits ⟨d, small⟩
  intro c member
  obtain ⟨x, among, member⟩ := List.mem_flatMap.mp member
  split at member
  · obtain ⟨b, -, member⟩ := List.mem_flatMap.mp member
    exact percent b c member
  · next plain =>
    rw [List.mem_singleton.mp member]
    exact ⟨Bool.eq_false_iff.mpr plain, clear x among⟩

theorem leave_subset (dirs : List (List Char)) : leave dirs ⊆ dirs := by
  cases dirs with
  | nil => exact List.Subset.refl _
  | cons d ds =>
    rw [leave]
    split
    · exact List.Subset.refl _
    · exact List.subset_cons_self d ds

theorem enter_segments (clear : ∀ c ∈ s, isEncoded c = false ∧ isSlash c = false)
    (each : ∀ d ∈ dirs, Segment d) : ∀ d ∈ enter dirs s, Segment d := by
  unfold enter
  split
  · exact each
  · exact fun d member => each d (leave_subset dirs member)
  · next noDot noDots => exact List.forall_mem_cons.mpr ⟨⟨clear, noDot, noDots⟩, each⟩

theorem foldl_enter_segments
    (clear : ∀ s ∈ segs, ∀ c ∈ s, isEncoded c = false ∧ isSlash c = false)
    (each : ∀ d ∈ dirs, Segment d) : ∀ d ∈ segs.foldl enter dirs, Segment d := by
  induction segs generalizing dirs with
  | nil => exact each
  | cons s segs ih =>
    obtain ⟨own, others⟩ := List.forall_mem_cons.mp clear
    exact ih others (enter_segments own each)

/-- A normal path is made of segments. -/
theorem exists_normalize_eq_join (cs : List Char) :
    ∃ segs, segs ≠ [] ∧ (∀ s ∈ segs, Segment s) ∧ normalize cs = join segs := by
  rw [normalize]
  dsimp only
  have clear : ∀ s ∈ (segments cs).map encodeSegment, ∀ c ∈ s,
      isEncoded c = false ∧ isSlash c = false := by
    rw [List.forall_mem_map]
    exact fun s member => encodeSegment_clear (not_isSlash_of_mem_segments s member)
  generalize (segments cs).map encodeSegment = ss at clear ⊢
  have front : ∀ d ∈ ss.dropLast.foldl enter [], Segment d :=
    foldl_enter_segments (fun s member => clear s (List.dropLast_subset _ member)) (by simp)
  have ends : ∀ c ∈ ss.getLast?.getD [], isEncoded c = false ∧ isSlash c = false := by
    cases last : ss.getLast? with
    | none => simp
    | some s => exact clear s (List.mem_of_getLast? last)
  -- However the path ends, it is the directories and one more segment, which may be empty.
  have put {dirs : List (List Char)} {last : List Char} (each : ∀ d ∈ dirs, Segment d)
      (own : Segment last) : ∃ segs, segs ≠ [] ∧ (∀ s ∈ segs, Segment s) ∧
        dirs.reverse.flatMap (fun d => '/' :: d) ++ '/' :: last = join segs := by
    refine ⟨dirs.reverse ++ [last], by simp, ?_, by simp [join]⟩
    rw [List.forall_mem_append]
    exact ⟨fun d member => each d (List.mem_reverse.mp member), by simpa using own⟩
  split
  · exact put front segment_nil
  · exact put (fun d member => front d (leave_subset _ member)) segment_nil
  · next noDot noDots => exact put front ⟨ends, noDot, noDots⟩

/-! ### What normal paths are read as -/

theorem segments_self (clear : ∀ c ∈ s, isSlash c = false) : segments s = [s] := by
  induction s with
  | nil => rfl
  | cons c s ih =>
    obtain ⟨own, others⟩ := List.forall_mem_cons.mp clear
    rw [segments, if_neg (Bool.eq_false_iff.mp own), ih others]

theorem segments_append_slash (clear : ∀ c ∈ s, isSlash c = false) :
    segments (s ++ '/' :: cs) = s :: segments cs := by
  induction s with
  | nil => rfl
  | cons c s ih =>
    obtain ⟨own, others⟩ := List.forall_mem_cons.mp clear
    rw [List.cons_append, segments, if_neg (Bool.eq_false_iff.mp own), ih others]

theorem segments_join (each : ∀ d ∈ s :: segs, Segment d) :
    segments (join (s :: segs)).tail = s :: segs := by
  induction segs generalizing s with
  | nil => simpa [join] using segments_self fun c member => ((each s (by simp)).clear c member).2
  | cons next segs ih =>
    obtain ⟨own, others⟩ := List.forall_mem_cons.mp each
    have later : (join (s :: next :: segs)).tail = s ++ '/' :: (join (next :: segs)).tail := by
      simp [join]
    rw [later, segments_append_slash fun c member => (own.clear c member).2, ih others]

theorem encodeSegment_self (clear : ∀ c ∈ s, isEncoded c = false) : encodeSegment s = s := by
  rw [encodeSegment, List.flatMap_congr (g := fun c => [c])]
  · exact List.flatMap_singleton' s
  · intro c member
    rw [if_neg (Bool.eq_false_iff.mp (clear c member))]

theorem enter_segment (own : Segment s) : enter dirs s = s :: dirs := by
  unfold enter
  split
  · next dot => exact absurd dot own.stays.1
  · next dots => exact absurd dots own.stays.2
  · rfl

theorem foldl_enter_eq (each : ∀ s ∈ segs, Segment s) :
    segs.foldl enter dirs = segs.reverse ++ dirs := by
  induction segs generalizing dirs with
  | nil => rfl
  | cons s segs ih =>
    obtain ⟨own, others⟩ := List.forall_mem_cons.mp each
    rw [List.foldl_cons, enter_segment own, ih others]
    simp

/-- A path in its normal form is left as it is. -/
theorem normalize_join (some : segs ≠ []) (each : ∀ s ∈ segs, Segment s) :
    normalize (join segs).tail = join segs := by
  obtain ⟨s, ss, rfl⟩ := List.exists_cons_of_ne_nil some
  have same : (s :: ss).map encodeSegment = s :: ss := by
    rw [List.map_congr_left (g := id), List.map_id]
    exact fun d member => encodeSegment_self fun c inside => ((each d member).clear c inside).1
  have front : (s :: ss).dropLast.foldl enter [] = (s :: ss).dropLast.reverse := by
    rw [foldl_enter_eq fun d member => each d (List.dropLast_subset _ member), List.append_nil]
  have last := each _ (List.getLast_mem some)
  rw [normalize, segments_join each, same, List.getLast?_eq_some_getLast some]
  dsimp only [Option.getD_some]
  split
  · next dot => exact absurd dot last.stays.1
  · next dots => exact absurd dots last.stays.2
  · have whole := congrArg join (List.dropLast_append_getLast some)
    rw [join_append] at whole
    rw [front, List.reverse_reverse, ← whole]
    simp [join]

theorem printed_of_mem_join {c : Char} (each : ∀ s ∈ segs, Segment s) (member : c ∈ join segs) :
    UrlHost.IsPrinted c ∧ c ≠ '?' ∧ c ≠ '#' := by
  obtain ⟨s, among, member⟩ := List.mem_flatMap.mp member
  rcases List.mem_cons.mp member with rfl | inside
  · exact ⟨⟨by decide, by decide⟩, by decide, by decide⟩
  · have clear := ((each s among).clear c inside).1
    simp [isEncoded] at clear
    exact ⟨⟨by omega, by omega⟩, by tauto, by tauto⟩

end UrlPath

/-! ## URLs -/

namespace Url

open UrlPath UrlHost

/-- A URL whose parts are in their normal form. -/
structure Normal (url : Url) : Prop where
  own : UrlHost.parse url.host.toList = .ok url.host
  written : Written url.host.toList
  port : ∀ port, url.port = some port → port < 0x10000
  path : ∃ segs, segs ≠ [] ∧ (∀ s ∈ segs, Segment s) ∧ url.path = join segs

theorem readPort_lt {cs : List Char} {port : Option Nat} (read : readPort cs = .ok port) :
    ∀ p, port = some p → p < 0x10000 := by
  unfold readPort at read
  split at read
  · cases read
    simp
  · cases read
    simp
  · split at read
    · next fine =>
      cases read
      simpa using fine.2
    · cases read
  · cases read

theorem parse_normal {cs : List Char} {url : Url} (ok : parse cs = .ok url) : url.Normal := by
  unfold parse at ok
  obtain ⟨host, hostRead, ok⟩ := Except.bind_eq_ok_iff.mp ok
  obtain ⟨port, portRead, ok⟩ := Except.bind_eq_ok_iff.mp ok
  cases ok
  obtain ⟨own, written⟩ := parse_self hostRead
  exact ⟨own, written, readPort_lt portRead, exists_normalize_eq_join _⟩

/-! ### URLs read back -/

theorem readPort_digitsOf {port : Nat} (fits : port < 0x10000) :
    readPort (':' :: digitsOf port) = .ok (some port) := by
  obtain ⟨d, ds, same⟩ := List.exists_cons_of_ne_nil (digitsOf_ne_nil port)
  have digits := all_isDigit_digitsOf port
  have value := ofDigits_digitsOf port
  rw [same] at digits value ⊢
  rw [readPort, value, if_pos ⟨digits, fits⟩]
  simp

/-- The parts of an authority with a path, where nothing has to be left out. -/
theorem parse_append {authority path : List Char} (some : authority ≠ [])
    (clear : ∀ c ∈ authority, InAuthority c)
    (visible : ∀ c ∈ '/' :: path, IsPrinted c ∧ c ≠ '?' ∧ c ≠ '#') :
    parse (authority ++ '/' :: path) = do
      let host ← UrlHost.parse (splitHost false authority).1
      let port ← readPort (splitHost false authority).2
      return ⟨host, port, normalize path⟩ := by
  -- No character is blank or a control, so none is trimmed or left out.
  have printed : ∀ c ∈ authority ++ '/' :: path, IsPrinted c :=
    List.forall_mem_append.mpr ⟨fun c member => (clear c member).1,
      fun c member => (visible c member).1⟩
  have ends : ((authority ++ '/' :: path).reverse.dropWhile fun c => c.toNat ≤ 0x20).reverse =
      authority ++ '/' :: path := by
    have last := Text.head?_any_eq_false fun c member =>
      decide_eq_false (Nat.not_le.mpr (printed c (List.mem_reverse.mp member)).1)
    rw [Text.dropWhile_eq_self last, List.reverse_reverse]
  have kept : (authority ++ '/' :: path).filter (fun c => c != '\t' && c != '\n' && c != '\r') =
      authority ++ '/' :: path := by
    rw [List.filter_eq_self]
    intro c member
    have above := (printed c member).1
    have controls : c ≠ '\t' ∧ c ≠ '\n' ∧ c ≠ '\r' := by
      refine ⟨?_, ?_, ?_⟩ <;> rintro rfl <;> contradiction
    simpa [and_assoc] using controls
  have apart : ∀ c ∈ authority, isSlash c = false ∧ c ≠ '?' ∧ c ≠ '#' ∧ c ≠ '@' := by
    intro c member
    have others := (clear c member).2
    simp [isSlash] at others ⊢
    tauto
  have start : (authority ++ '/' :: path).dropWhile isSlash = authority ++ '/' :: path := by
    have first := Text.head?_any_eq_false fun c member => (apart c member).1
    rw [List.dropWhile_append, Text.dropWhile_eq_self first]
    simp [some]
  have inside : ∀ c ∈ authority, (!endsAuthority c) = true := by
    intro c member
    simp [endsAuthority, apart c member]
  have front : (authority ++ '/' :: path).takeWhile (fun c => !endsAuthority c) = authority := by
    rw [List.takeWhile_append_of_pos inside]
    simp [endsAuthority, isSlash]
  have back : (authority ++ '/' :: path).dropWhile (fun c => !endsAuthority c) = '/' :: path := by
    rw [List.dropWhile_append_of_pos inside]
    simp [endsAuthority, isSlash]
  have whole : ('/' :: path).takeWhile (fun c => c != '?' && c != '#') = '/' :: path := by
    rw [List.takeWhile_eq_self_iff]
    intro c member
    simpa using (visible c member).2
  have noUser : dropUserInfo authority = authority := by
    have all : ∀ c ∈ authority.reverse, (c != '@') = true := by
      intro c member
      simp [apart c (List.mem_reverse.mp member)]
    rw [dropUserInfo, List.takeWhile_eq_self_iff.mpr all, List.reverse_reverse]
  rw [parse]
  dsimp only
  rw [ends, kept, start, front, back, whole, noUser]
  rfl

/-- A URL put together from its parts is read as these parts. -/
theorem parse_written {host : String} {port : Nat} {segs : List (List Char)}
    (own : UrlHost.parse host.toList = .ok host) (written : Written host.toList)
    (fits : port < 0x10000) (some : segs ≠ []) (each : ∀ s ∈ segs, Segment s) :
    parse (host.toList ++ ':' :: digitsOf port ++ join segs) =
      .ok ⟨host, .some port, join segs⟩ := by
  obtain ⟨s, ss, rfl⟩ := List.exists_cons_of_ne_nil some
  have path : join (s :: ss) = '/' :: (join (s :: ss)).tail := by simp [join]
  have colon : InAuthority ':' := by simp [InAuthority, IsPrinted]
  have clear : ∀ c ∈ host.toList ++ ':' :: digitsOf port, InAuthority c := by
    rw [List.forall_mem_append, List.forall_mem_cons]
    exact ⟨written.clear, colon, fun c member => inAuthority_of_mem_digitsOf member⟩
  have visible := fun c member => printed_of_mem_join (c := c) each member
  rw [path] at visible
  rw [path, parse_append (by simp) clear visible, written.splits]
  dsimp only
  rw [own, readPort_digitsOf fits, normalize_join some each, ← path]
  rfl

end Url

end BeanMeter
