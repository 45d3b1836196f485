import BeanMeter.Net.Url
import BeanMeter.Proofs.Net.DomainName
import BeanMeter.Proofs.Number.Digits
import BeanMeter.Proofs.Outcome
import BeanMeter.Proofs.Text.Separators

/-! # Addresses in URLs

What a URL may have as an address in numbers is written in one form, and that is read as the same
address.

* `UrlHost.readIpv4Parts_digitsOf` — four decimal octets are read back.
* `UrlHost.readIpv6Groups?_ipv6Text` — eight groups are read back, with the gap or without.
-/

namespace BeanMeter.UrlHost

variable {n : Nat} {octets groups : List Nat}

/-! ## Four octets -/

/-- Four octets. -/
def IsIpv4 (octets : List Nat) : Prop := octets.length = 4 ∧ ∀ n ∈ octets, n < 256

theorem of_readIpv4Parts {parts : List (List Char)} (ok : readIpv4Parts parts = .ok octets) :
    IsIpv4 octets := by
  unfold readIpv4Parts at ok
  split at ok
  · cases ok
  · next few =>
    obtain ⟨numbers, read, ok⟩ := Except.bind_eq_ok_iff.mp ok
    obtain ⟨g, -, rfl⟩ := mapM_eq_ok_iff.mp read
    have count : (parts.map g).reverse.length = parts.length := by simp
    split at ok
    · cases ok
    · next last before found =>
      rw [found, List.length_cons] at count
      split at ok
      · cases ok
      · next bounds =>
        cases ok
        have small : ∀ n ∈ before, n < 256 := by simpa [Nat.lt_succ_iff] using (not_or.mp bounds).2
        have tail : ∀ n ∈ [last / 0x1000000 % 256, last / 0x10000 % 256, last / 0x100 % 256,
            last % 256], n < 256 := by
          simp [Nat.mod_lt]
        refine ⟨by simp; omega, List.forall_mem_append.mpr ⟨by simpa using small, ?_⟩⟩
        exact fun n member => tail n (List.mem_of_mem_drop member)

theorem foldl_hexValue?_eq {ds : List Char} (digits : ds.all isDigit = true) (n : Nat) :
    ds.foldl (fun n c => 10 * n + (hexValue? c).getD 0) n = foldDigits n ds := by
  induction ds generalizing n with
  | nil => rfl
  | cons d ds ih =>
    rw [List.all_cons, Bool.and_eq_true] at digits
    have value : hexValue? d = some (digitValue d) := by rw [hexValue?, if_pos digits.1]
    rw [List.foldl_cons, ih digits.2, value]
    rfl

theorem readPart_digitsOf (fits : n < 0x100000000) : readPart (digitsOf n) = .number n := by
  have digits := all_isDigit_digitsOf n
  have value : (digitsOf n).foldl (fun n c => 10 * n + (hexValue? c).getD 0) 0 = n :=
    (foldl_hexValue?_eq digits 0).trans (ofDigits_digitsOf n)
  have decimal : partInRadix 10 isDigit (digitsOf n) = .number n := by
    rw [partInRadix, if_pos digits, value, if_pos fits]
  obtain ⟨d, ds, same, zero⟩ := exists_digitsBefore_eq_cons n []
  change digitsOf n = d :: ds at same
  rw [same] at decimal ⊢
  unfold readPart
  split
  · contradiction
  · next single =>
    cases single
    rw [(zero rfl).1]
  · next leading =>
    cases leading
    cases (zero rfl).2
  · exact decimal

theorem toList_ipv4Text (octets : List Nat) :
    (ipv4Text octets).toList = ['.'].intercalate (octets.map digitsOf) := by
  simp [ipv4Text, naturalText, String.toList_intercalate, Function.comp_def]

theorem not_dot_of_isDigit {c : Char} (digit : isDigit c = true) : c ≠ '.' := by
  rintro rfl
  cases digit

theorem numberParts_ipv4Text (some : octets ≠ []) :
    numberParts (ipv4Text octets).toList = octets.map digitsOf := by
  have pieces : Text.splitOn '.' (ipv4Text octets).toList = octets.map digitsOf := by
    rw [toList_ipv4Text]
    apply Text.splitOn_intercalate (by simpa using some)
    rw [List.forall_mem_map]
    exact fun n _ dot => not_dot_of_isDigit (isDigit_of_mem_digitsOf dot) rfl
  have last : (octets.map digitsOf).getLast? ≠ .some [] := by
    intro empty
    obtain ⟨n, -, none⟩ := List.mem_map.mp (List.mem_of_getLast? empty)
    exact digitsOf_ne_nil n none
  rw [numberParts, pieces, if_neg last]

theorem endsInNumber_ipv4Text (some : octets ≠ []) :
    endsInNumber (ipv4Text octets).toList = true := by
  rw [endsInNumber, numberParts_ipv4Text some, List.getLast?_map,
    List.getLast?_eq_some_getLast some]
  simp only [Option.map_some, digitsOf_ne_nil, all_isDigit_digitsOf, ne_eq, not_false_eq_true,
    decide_true, Bool.and_self, Bool.true_or]

theorem readIpv4Parts_digitsOf (address : IsIpv4 octets) :
    readIpv4Parts (octets.map digitsOf) = .ok octets := by
  have whole : (octets.map digitsOf).map ofDigits = octets := by
    simp [Function.comp_def, ofDigits_digitsOf]
  have few : ¬ 4 < (octets.map digitsOf).length := by simp [address.1]
  unfold readIpv4Parts
  rw [if_neg few]
  refine Except.bind_eq_ok_iff.mpr ⟨(octets.map digitsOf).map ofDigits, mapM_eq_ok_map ?_, ?_⟩
  · rw [List.forall_mem_map]
    intro n member
    rw [readPart_digitsOf ((address.2 n member).trans (by decide)), ofDigits_digitsOf]
  · rw [whole]
    obtain ⟨a, b, c, d, rfl⟩ := List.length_eq_four.mp address.1
    have small := address.2
    simp only [List.forall_mem_cons] at small
    obtain ⟨ha, hb, hc, hd, -⟩ := small
    have bounds : ¬ (Nat.pow 256 (4 - [c, b, a].length) ≤ d ∨ [c, b, a].any (255 < ·) = true) := by
      simp
      omega
    simp only [List.reverse_cons, List.reverse_nil, List.nil_append, List.cons_append]
    rw [if_neg bounds]
    simp [Nat.mod_eq_of_lt hd]
    rfl

/-! ## Groups -/

/-- The groups read so far: those before a gap in reverse order, and those after it. -/
abbrev Groups := List Nat × Option (List Nat)

namespace Groups

variable {s : Groups} {gs hs : List Nat}

/-- More groups in reverse order. -/
def push (gs : List Nat) (s : Groups) : Groups :=
  match s.2 with
  | none => (gs ++ s.1, none)
  | some tail => (s.1, some (gs ++ tail))

/-- How many groups there are at least, where a gap counts as one. -/
def count (s : Groups) : Nat :=
  s.1.length + match s.2 with | none => 0 | some tail => tail.length + 1

/-- No more than eight groups of 16 bits. -/
structure Fit (s : Groups) : Prop where
  few : s.count ≤ 8
  small : ∀ g ∈ s.1 ++ s.2.getD [], g < 0x10000

theorem count_push : (s.push gs).count = s.count + gs.length := by
  rcases s with ⟨head, _ | tail⟩
  · simp [push, count, Nat.add_comm]
  · simp only [push, count, List.length_append]
    ring

theorem push_push : (s.push gs).push hs = s.push (hs ++ gs) := by
  rcases s with ⟨head, _ | tail⟩ <;> simp [push]

theorem Fit.push (fit : s.Fit) (room : s.count + gs.length ≤ 8) (small : ∀ g ∈ gs, g < 0x10000) :
    (s.push gs).Fit where
  few := by rwa [count_push]
  small := by
    have before := fit.small
    rcases s with ⟨head, _ | tail⟩ <;> simp [Groups.push, or_imp, forall_and] at before ⊢ <;> tauto

/-- The eight groups, with zeros in the gap. -/
def filled? : Groups → Option (List Nat)
  | (head, none) => if head.length = 8 then some head.reverse else none
  | (head, some tail) =>
    some (head.reverse ++ List.replicate (8 - head.length - tail.length) 0 ++ tail.reverse)

theorem Fit.of_filled? {groups : List Nat} (fit : s.Fit) (filled : s.filled? = some groups) :
    groups.length = 8 ∧ ∀ g ∈ groups, g < 0x10000 := by
  obtain ⟨few, small⟩ := fit
  rcases s with ⟨head, _ | tail⟩
  · obtain ⟨eight, same⟩ := Option.ite_none_right_eq_some.mp filled
    cases same
    exact ⟨by simpa using eight, by simpa using small⟩
  · cases filled
    simp only [count] at few
    simp [or_imp, forall_and] at small
    refine ⟨by simp; omega, ?_⟩
    simp [or_imp, forall_and]
    tauto

end Groups

theorem readOctet?_small {cs rest : List Char} (read : readOctet? cs = some (n, rest)) :
    n < 256 := by
  rw [readOctet?] at read
  split at read
  · cases read
  · next fine =>
    cases read
    simp only [not_or] at fine
    omega

theorem readDottedTail?_small {cs : List Char} (read : readDottedTail? cs = some groups) :
    groups.length = 2 ∧ ∀ g ∈ groups, g < 0x10000 := by
  rw [readDottedTail?] at read
  split at read
  · next a b c d found =>
    cases read
    simp only [readIpv4?, Option.bind_eq_bind, Option.bind_eq_some_iff, Prod.exists,
      Option.pure_def, Option.some_inj, Prod.mk.injEq, List.cons.injEq] at found
    obtain ⟨a, _, first, _, _, b, _, second, _, _, c, _, third, _, _, d, _, last, same, -⟩ := found
    obtain ⟨rfl, rfl, rfl, rfl, -⟩ := same
    have ha := readOctet?_small first
    have hb := readOctet?_small second
    have hc := readOctet?_small third
    have hd := readOctet?_small last
    simp
    omega
  · cases read

theorem readHexDigits?_small (cs : List Char) :
    (readHexDigits? ((cs.takeWhile fun c => (hexValue? c).isSome).take 4)).getD 0 < 0x10000 := by
  cases read : readHexDigits? ((cs.takeWhile fun c => (hexValue? c).isSome).take 4) with
  | none => decide
  | some k =>
    obtain ⟨-, -, bound⟩ := of_readHexDigits? read
    calc k < 16 ^ ((cs.takeWhile fun c => (hexValue? c).isSome).take 4).length := bound
      _ ≤ 16 ^ 4 := Nat.pow_le_pow_right (by decide) (List.length_take_le 4 _)

theorem readGroupsFrom?_fit {head : List Nat} {tail : Option (List Nat)} {cs : List Char}
    {s : Groups} (fit : Groups.Fit (head, tail)) (read : readGroupsFrom? head tail cs = some s) :
    s.Fit := by
  -- Groups are pushed only after the count has been looked at, and a gap counts as one of them.
  fun_induction readGroupsFrom? head tail cs with
  | case1 => cases read; exact fit
  | case2 | case3 | case6 | case8 | case10 => cases read
  | case4 head rest count room ih =>
    refine ih ⟨?_, by simpa using fit.small⟩ read
    have room : ¬ 8 ≤ head.length + 0 := room
    simp only [Groups.count, List.length_nil]
    omega
  | case5 head tail push count c rest room _ ds value _ moreHead moreTail pushed =>
    cases read
    have room : ¬ 8 ≤ Groups.count (head, tail) := room
    have next : (Groups.push [value] (head, tail)).Fit :=
      fit.push (by simp; omega) (by simpa using readHexDigits?_small _)
    exact pushed ▸ next
  | case7 head tail push count c rest _ _ ds _ _ dotted =>
    obtain ⟨groups, read, pushed⟩ := Option.map_eq_some_iff.mp read
    obtain ⟨two, small⟩ := readDottedTail?_small read
    have room : ¬ (ds = [] ∨ 6 < Groups.count (head, tail)) := dotted
    have next : (Groups.push groups.reverse (head, tail)).Fit :=
      fit.push (by simp; omega) (by simpa using small)
    exact pushed ▸ next
  | case9 head tail push count c rest room _ ds value more _ _ moreHead moreTail pushed ih =>
    have room : ¬ 8 ≤ Groups.count (head, tail) := room
    have next : (Groups.push [value] (head, tail)).Fit :=
      fit.push (by simp; omega) (by simpa using readHexDigits?_small _)
    exact ih (pushed ▸ next) read

/-- The groups of an address as far as they are written. -/
def startGroups? : List Char → Option Groups
  | ':' :: ':' :: rest => readGroupsFrom? [] (some []) rest
  | ':' :: _ => none
  | cs => if cs.length < 2 then none else readGroupsFrom? [] none cs

theorem readIpv6Groups?_eq (cs : List Char) :
    readIpv6Groups? cs = (startGroups? cs).bind Groups.filled? := by
  have same : readIpv6Groups? cs = match startGroups? cs with
    | none => none
    | some (head, none) => if head.length = 8 then some head.reverse else none
    | some (head, some tail) =>
      some (head.reverse ++ List.replicate (8 - head.length - tail.length) 0 ++ tail.reverse) := rfl
  rw [same]
  rcases startGroups? cs with _ | ⟨head, _ | tail⟩ <;> rfl

theorem of_readIpv6Groups? {cs : List Char} (read : readIpv6Groups? cs = some groups) :
    groups.length = 8 ∧ ∀ g ∈ groups, g < 0x10000 := by
  rw [readIpv6Groups?_eq] at read
  obtain ⟨s, start, filled⟩ := Option.bind_eq_some_iff.mp read
  have fit : s.Fit := by
    unfold startGroups? at start
    split at start
    · exact readGroupsFrom?_fit ⟨by decide, by simp⟩ start
    · cases start
    · split at start
      · cases start
      · exact readGroupsFrom?_fit ⟨by decide, by simp⟩ start
  exact fit.of_filled? filled

/-! ## Groups read back -/

theorem shortHex_eq (fits : n < 0x10000) : shortHex n ≠ [] ∧ (shortHex n).length ≤ 4 ∧
    (∀ c ∈ shortHex n, (hexValue? c).isSome = true) ∧ readHexDigits? (shortHex n) = some n := by
  have value : ((hexDigits 4 n).dropWhile (· == '0')).foldlM pushHex? 0 = some n := by
    have digits := foldlM_hexDigits false 4 0 n
    rw [show (hexDigits 4 n).map (hexCase false) = hexDigits 4 n from List.map_id _] at digits
    rw [foldlM_dropWhile_zero, digits]
    simpa using Nat.mod_eq_of_lt fits
  have short := (List.dropWhile_sublist (l := hexDigits 4 n) (· == '0')).length_le
  rw [length_hexDigits] at short
  unfold shortHex
  split
  · next none =>
    rw [none] at value
    cases value
    have zero : (hexValue? '0').isSome = true := rfl
    exact ⟨by simp, by simp, by simpa using zero, rfl⟩
  · next some => exact ⟨some, short, (of_foldlM_pushHex? value).1, by rwa [readHexDigits?_eq some]⟩

/-- The digits of a group at the beginning of a text. -/
theorem exists_shortHex_append_eq (rest : List Char) (fits : n < 0x10000)
    (stop : rest.head?.any (fun c => (hexValue? c).isSome) = false) :
    ∃ d ds, shortHex n ++ rest = d :: ds ∧ d ≠ ':' ∧
      ((d :: ds).takeWhile fun c => (hexValue? c).isSome).take 4 = shortHex n ∧
      (d :: ds).drop (shortHex n).length = rest := by
  obtain ⟨some, short, hex, -⟩ := shortHex_eq fits
  have none : rest.takeWhile (fun c => (hexValue? c).isSome) = [] := by
    cases rest with
    | nil => rfl
    | cons c rest => simpa using stop
  obtain ⟨d, ds, same⟩ := List.exists_cons_of_ne_nil some
  refine ⟨d, ds ++ rest, by rw [same, List.cons_append], ?_, ?_, ?_⟩
  · rintro rfl
    have colon := hex ':' (by simp [same])
    cases colon
  · rw [← List.cons_append, ← same, List.takeWhile_append_of_pos hex, none, List.append_nil,
      List.take_of_length_le short]
  · rw [← List.cons_append, ← same, List.drop_left]

section

variable {s : Groups}

theorem readGroupsFrom?_last (fits : n < 0x10000) (room : s.count < 8) :
    readGroupsFrom? s.1 s.2 (shortHex n) = some (s.push [n]) := by
  obtain ⟨d, ds, same, noColon, digits, dropped⟩ :=
    exists_shortHex_append_eq [] fits rfl
  rw [List.append_nil] at same
  rw [same, readGroupsFrom?.eq_def]
  refine (if_neg (Nat.not_le.mpr room)).trans ?_
  rw [if_neg noColon]
  dsimp only
  split
  · rw [digits, (shortHex_eq fits).2.2.2]
    rfl
  all_goals simp_all

theorem readGroupsFrom?_colon (fits : n < 0x10000) (room : s.count < 8) (c : Char)
    (rest : List Char) :
    readGroupsFrom? s.1 s.2 (shortHex n ++ ':' :: c :: rest) =
      readGroupsFrom? (s.push [n]).1 (s.push [n]).2 (c :: rest) := by
  obtain ⟨d, ds, same, noColon, digits, dropped⟩ :=
    exists_shortHex_append_eq (':' :: c :: rest) fits rfl
  rw [same, readGroupsFrom?.eq_def]
  refine (if_neg (Nat.not_le.mpr room)).trans ?_
  rw [if_neg noColon]
  dsimp only
  -- What is left after the digits begins with a colon, which only one case allows.
  split
  case h_4 more _ found =>
    rw [digits, dropped] at found
    cases found
    rw [digits, (shortHex_eq fits).2.2.2]
    rfl
  all_goals simp_all

theorem groupsText_eq (groups : List Nat) :
    groupsText groups = [':'].intercalate (groups.map shortHex) := by
  simp [groupsText, String.toList_intercalate, Function.comp_def]

theorem groupsText_cons_cons (g next : Nat) (groups : List Nat) :
    groupsText (g :: next :: groups) = shortHex g ++ ':' :: groupsText (next :: groups) := by
  simp [groupsText_eq, List.intercalate_cons_cons]

theorem groupsText_cons (g : Nat) (groups : List Nat) :
    ∃ more, groupsText (g :: groups) = shortHex g ++ more ∧
      more.head?.any (fun c => (hexValue? c).isSome) = false := by
  cases groups with
  | nil => exact ⟨[], by simp [groupsText_eq], rfl⟩
  | cons next groups => exact ⟨_, groupsText_cons_cons g next groups, rfl⟩

theorem exists_groupsText_eq_cons {g : Nat} (fits : g < 0x10000) (groups : List Nat) :
    ∃ d ds, groupsText (g :: groups) = d :: ds ∧ d ≠ ':' := by
  obtain ⟨more, text, stop⟩ := groupsText_cons g groups
  obtain ⟨d, ds, same, noColon, -⟩ := exists_shortHex_append_eq more fits stop
  exact ⟨d, ds, text.trans same, noColon⟩

theorem readGroupsFrom?_groupsText (small : ∀ g ∈ groups, g < 0x10000)
    (room : s.count + groups.length ≤ 8) :
    readGroupsFrom? s.1 s.2 (groupsText groups) = some (s.push groups.reverse) := by
  induction groups generalizing s with
  | nil => rcases s with ⟨head, _ | tail⟩ <;> simp [groupsText_eq, readGroupsFrom?, Groups.push]
  | cons g groups ih =>
    obtain ⟨own, others⟩ := List.forall_mem_cons.mp small
    rw [List.length_cons] at room
    cases groups with
    | nil => simpa [groupsText_eq] using readGroupsFrom?_last own (by omega)
    | cons next groups =>
      obtain ⟨d, ds, text, -⟩ := exists_groupsText_eq_cons (others next List.mem_cons_self) groups
      have pushed : (s.push [g]).count + (next :: groups).length ≤ 8 := by
        rw [Groups.count_push, List.length_singleton]
        omega
      rw [groupsText_cons_cons, text, readGroupsFrom?_colon own (by omega) d ds, ← text,
        ih others pushed, Groups.push_push, ← List.reverse_cons]

/-- Groups before a gap: the second colon after the last of them opens it. -/
theorem readGroupsFrom?_gap {head : List Nat} (some : groups ≠ [])
    (small : ∀ g ∈ groups, g < 0x10000) (room : head.length + groups.length < 8)
    (rest : List Char) :
    readGroupsFrom? head none (groupsText groups ++ ':' :: ':' :: rest) =
      readGroupsFrom? (groups.reverse ++ head) (.some []) rest := by
  induction groups generalizing head with
  | nil => contradiction
  | cons g groups ih =>
    obtain ⟨own, others⟩ := List.forall_mem_cons.mp small
    rw [List.length_cons] at room
    have free : Groups.count (head, none) < 8 := Nat.lt_of_le_of_lt (Nat.le_add_right _ _) room
    cases groups with
    | nil =>
      have gap : readGroupsFrom? (g :: head) none (':' :: rest) =
          readGroupsFrom? (g :: head) (.some []) rest := by
        rw [readGroupsFrom?.eq_def]
        exact (if_neg (Nat.not_le.mpr room)).trans (if_pos rfl)
      have last := readGroupsFrom?_colon own free ':' rest
      simpa [groupsText_eq] using last.trans gap
    | cons next groups =>
      obtain ⟨d, ds, text, -⟩ := exists_groupsText_eq_cons (others next List.mem_cons_self) groups
      have step := readGroupsFrom?_colon own free d (ds ++ ':' :: ':' :: rest)
      have closer : (g :: head).length + (next :: groups).length < 8 := by simp at room ⊢; omega
      have later := ih (List.cons_ne_nil next groups) others closer
      rw [groupsText_cons_cons, List.append_assoc, List.cons_append, text, List.cons_append, step,
        ← List.cons_append, ← text]
      simpa [Groups.push] using later

end

/-! ## The gap -/

/-- A place where a run of zeros begins, and how long it is. -/
def IsZeroRun (groups : List Nat) (run : Nat × Nat) : Prop :=
  ∃ before after, groups = before ++ (List.replicate run.2 0 ++ after) ∧ before.length = run.1

theorem exists_zeroRun (groups : List Nat) :
    ∃ after, groups = List.replicate (zeroRun groups) 0 ++ after := by
  have zeros : groups.takeWhile (· == 0) = List.replicate (zeroRun groups) 0 :=
    List.eq_replicate_iff.mpr ⟨rfl, fun g member => by simpa using List.mem_takeWhile_imp member⟩
  exact ⟨groups.dropWhile (· == 0), by rw [← zeros, List.takeWhile_append_dropWhile]⟩

/-- The best run so far is one of the whole list, whatever part of it is still ahead. -/
theorem longestZeroRun_isZeroRun (before : List Nat) {best : Nat × Nat}
    (run : IsZeroRun (before ++ groups) best) :
    IsZeroRun (before ++ groups) (longestZeroRun best before.length groups) := by
  induction groups generalizing before best with
  | nil => exact run
  | cons g gs ih =>
    have next : IsZeroRun (before ++ g :: gs)
        (if best.2 < zeroRun (g :: gs) then (before.length, zeroRun (g :: gs)) else best) := by
      split
      · obtain ⟨after, zeros⟩ := exists_zeroRun (g :: gs)
        exact ⟨before, after, congrArg (before ++ ·) zeros, rfl⟩
      · exact run
    rw [longestZeroRun]
    simpa using ih (before ++ [g]) (by simpa using next)

theorem startGroups?_eq {d : Char} {cs : List Char} (noColon : d ≠ ':') (some : cs ≠ []) :
    startGroups? (d :: cs) = readGroupsFrom? [] none (d :: cs) := by
  have long : ¬ (d :: cs).length < 2 := by
    have := List.length_pos_of_ne_nil some
    simp
    omega
  unfold startGroups?
  split
  · next same => exact absurd (List.cons.inj same).1 noColon
  · next same => exact absurd (List.cons.inj same).1 noColon
  · rw [if_neg long]

theorem startGroups?_groupsText (small : ∀ g ∈ groups, g < 0x10000) (eight : groups.length = 8) :
    startGroups? (groupsText groups) = some (groups.reverse, none) := by
  have read := readGroupsFrom?_groupsText (s := ([], none)) small (by simp [Groups.count, eight])
  rcases groups with _ | ⟨g, _ | ⟨next, groups⟩⟩
  · cases eight
  · cases eight
  · obtain ⟨own, others⟩ := List.forall_mem_cons.mp small
    obtain ⟨d, ds, text, noColon, -⟩ :=
      exists_shortHex_append_eq (':' :: groupsText (next :: groups)) own rfl
    have some : ds ≠ [] := by
      rintro rfl
      have length := congrArg List.length text
      have digit := List.length_pos_of_ne_nil (shortHex_eq own).1
      simp at length
      omega
    rw [groupsText_cons_cons, text] at read ⊢
    rw [startGroups?_eq noColon some, read]
    simp [Groups.push]

theorem startGroups?_gap {before after : List Nat} (small : ∀ g ∈ before ++ after, g < 0x10000)
    (room : before.length + after.length < 8) :
    startGroups? (groupsText before ++ ([':', ':'] ++ groupsText after)) =
      some (before.reverse, some after.reverse) := by
  obtain ⟨front, back⟩ := List.forall_mem_append.mp small
  have read := readGroupsFrom?_groupsText (s := (before.reverse, some [])) back
    (by simp [Groups.count]; omega)
  cases before with
  | nil => simpa [startGroups?, groupsText_eq, Groups.push] using read
  | cons g before =>
    obtain ⟨d, ds, text, noColon⟩ := exists_groupsText_eq_cons (front g List.mem_cons_self) before
    have few : ([] : List Nat).length + (g :: before).length < 8 := by simp at room ⊢; omega
    have gap := readGroupsFrom?_gap (List.cons_ne_nil g before) front few (groupsText after)
    rw [text] at gap ⊢
    rw [List.cons_append, startGroups?_eq noColon (by simp)]
    simpa [Groups.push] using gap.trans (by simpa [Groups.push] using read)

theorem readIpv6Groups?_ipv6Text (small : ∀ g ∈ groups, g < 0x10000) (eight : groups.length = 8) :
    readIpv6Groups? (ipv6Text groups).toList = some groups := by
  rw [readIpv6Groups?_eq, ipv6Text]
  have nothing : IsZeroRun groups (0, 0) := ⟨[], groups, rfl, rfl⟩
  obtain ⟨before, after, whole, start⟩ := longestZeroRun_isZeroRun [] nothing
  simp only [List.nil_append, List.length_nil] at whole start
  generalize longestZeroRun (0, 0) 0 groups = run at whole start ⊢
  obtain ⟨place, zeros⟩ := run
  dsimp only at whole start ⊢
  split
  · rw [String.toList_ofList, startGroups?_groupsText small eight]
    simp [Groups.filled?, eight]
  · next long =>
    subst whole start
    have room : before.length + after.length + zeros = 8 := by
      simp at eight
      omega
    have apart : ∀ g ∈ before ++ after, g < 0x10000 := by
      intro g member
      apply small
      simp at member ⊢
      tauto
    have front : (before ++ (List.replicate zeros 0 ++ after)).take before.length = before :=
      List.take_left
    have back : (before ++ (List.replicate zeros 0 ++ after)).drop (before.length + zeros) =
        after := by
      rw [← List.drop_drop, List.drop_left, List.drop_left' List.length_replicate]
    have fill : 8 - before.reverse.length - after.reverse.length = zeros := by simp; omega
    rw [front, back, String.toList_ofList, List.append_assoc, startGroups?_gap apart (by omega),
      Option.bind_some, Groups.filled?, fill]
    simp

end BeanMeter.UrlHost
