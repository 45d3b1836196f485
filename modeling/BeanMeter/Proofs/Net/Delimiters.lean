import BeanMeter.Proofs.Net.Hosts

/-! # Delimiters in hosts

A domain has neither a colon nor a closing bracket in it, so that a host which is not in brackets
ends where the first colon stands.

* `UrlHost.IsDelimiter` — these characters; each pass over a domain keeps them, and none is allowed
  in the end.
* `UrlHost.bracketed_or_clear` — what is read as a host is in brackets or has no delimiters.
-/

namespace BeanMeter

namespace Text.Utf8

/-- A byte of ASCII stands for its character wherever it occurs. -/
theorem mem_decodePieces {b : UInt8} {bytes : List UInt8} (ascii : b < 0x80)
    (member : b ∈ bytes) : some (Char.ofNat b.toNat) ∈ decodePieces bytes := by
  have single : sequenceLength b = 1 := by rw [sequenceLength, if_pos ascii]
  -- The bytes that follow the first one of a longer sequence are beyond ASCII.
  have follows (low : UInt8) (above : 0x80 ≤ low) : ¬ low ≤ b := by
    rw [UInt8.le_iff_toNat_le] at above ⊢
    rw [UInt8.lt_iff_toNat_lt] at ascii
    have bound : (0x80 : UInt8).toNat = 0x80 := rfl
    omega
  have noContinuation : isContinuation b = false := by
    simp [isContinuation, follows]
  have noSecond (lead : UInt8) : isSecond lead b = false := by
    unfold isSecond
    split_ifs <;> simp [noContinuation, follows]
  fun_induction decodePieces bytes with
  | case1 => cases member
  | case2 a rest _ ih =>
    rcases List.mem_cons.mp member with rfl | member
    · exact List.mem_cons_self
    · exact List.mem_cons_of_mem _ (ih member)
  | _ => grind

end Text.Utf8

namespace UrlHost

theorem mem_percentDecode {c : Char} {cs : List Char} (ascii : c.toNat < 0x80)
    (noPercent : c ≠ '%') (noDigit : hexValue? c = none) (member : c ∈ cs) :
    c.toNat.toUInt8 ∈ percentDecode cs := by
  fun_induction percentDecode cs with
  | case1 a b rest h l low high ih =>
    have apart : c ≠ a ∧ c ≠ b := by
      constructor <;> rintro rfl <;> simp [noDigit] at low high
    refine List.mem_cons_of_mem _ (ih ?_)
    simpa [noPercent, apart] using member
  | case2 a b rest _ ih =>
    refine List.mem_append_right _ (ih ?_)
    simpa [noPercent] using member
  | case3 d rest _ ih =>
    rcases List.mem_cons.mp member with rfl | member
    · apply List.mem_append_left
      simp [Text.Utf8.encodeChar, ascii]
    · exact List.mem_append_right _ (ih member)
  | case4 => cases member

/-- The characters that end a host, or the brackets around it. -/
def IsDelimiter (c : Char) : Prop := c = ':' ∨ c = ']'

end UrlHost

namespace DomainName

open UrlHost

variable {c : Char} {cs domain : List Char}

/-- No mark joins with a delimiter. -/
theorem compositions_clear : (Text.compositions.all fun m => m.2.all fun p =>
    p.1 != ':'.toNat && p.1 != ']'.toNat) = true := by
  decide +kernel

theorem join?_of_isDelimiter (delimiter : IsDelimiter c) (mark : Char) :
    Text.join? c mark = none := by
  rw [Option.eq_none_iff_forall_ne_some]
  intro joined joins
  obtain ⟨m, member, -, p, pair, code, -⟩ := exists_of_join? joins
  have clear := List.all_eq_true.mp (List.all_eq_true.mp compositions_clear m member) p pair
  rw [code] at clear
  rcases delimiter with rfl | rfl <;> simp at clear

theorem mem_composeAfter {last : Char} (delimiter : IsDelimiter c) (noMark : c.toNat < 0x300)
    (member : c ∈ last :: cs) : c ∈ Text.composeAfter last cs := by
  induction cs generalizing last with
  | nil => simpa [Text.composeAfter] using member
  | cons d cs ih =>
    rw [Text.composeAfter]
    split
    · next joined joins =>
      -- Neither of the two characters that are joined can be the delimiter.
      apply ih
      have apart : c ≠ last := by
        rintro rfl
        simp [join?_of_isDelimiter delimiter] at joins
      have follows : c ≠ d := by
        rintro rfl
        simp [Text.join?, noMark] at joins
      simp only [List.mem_cons, apart, follows, false_or] at member
      exact List.mem_cons_of_mem _ member
    · rcases List.mem_cons.mp member with rfl | member
      · exact List.mem_cons_self
      · exact List.mem_cons_of_mem _ (ih member)

theorem mem_mapped (delimiter : IsDelimiter c) (member : c ∈ domain) : c ∈ mapped domain := by
  have plain : c.toNat < 0x80 ∧ ¬ (0x41 ≤ c.toNat ∧ c.toNat ≤ 0x5a) := by
    rcases delimiter with rfl | rfl <;> decide
  have kept : c ∈ domain.flatMap mapChar := by
    rw [List.mem_flatMap]
    refine ⟨c, member, ?_⟩
    rw [mapChar_of_stays (stays_of_ascii plain.1 plain.2)]
    exact List.mem_singleton_self c
  rw [mapped]
  cases flat : domain.flatMap mapChar with
  | nil => simp [flat] at kept
  | cons last cs =>
    rw [flat] at kept
    exact mem_composeAfter delimiter (by omega) kept

theorem toAscii?_of_isDelimiter (delimiter : IsDelimiter c) (member : c ∈ domain) :
    toAscii? domain = none := by
  have forbidden : isForbidden c = true := by
    rcases delimiter with rfl | rfl <;> decide
  have any : (mapped domain).any isForbidden = true :=
    List.any_eq_true.mpr ⟨c, mem_mapped delimiter member, forbidden⟩
  rw [toAscii?, if_pos any]

end DomainName

namespace UrlHost

variable {c : Char} {host : List Char} {text : String}

theorem toAscii?_percentDecode (delimiter : IsDelimiter c) (member : c ∈ host) :
    (Text.Utf8.decodeStrict? (percentDecode host)).bind
      (fun s => DomainName.toAscii? s.toList) = none := by
  have plain : c.toNat < 0x80 ∧ c ≠ '%' ∧ hexValue? c = none := by
    rcases delimiter with rfl | rfl <;> decide
  obtain ⟨ascii, noPercent, noDigit⟩ := plain
  have byte : c.toNat.toUInt8.toNat = c.toNat := Nat.mod_eq_of_lt (by omega)
  have bytes := mem_percentDecode ascii noPercent noDigit member
  have pieces := Text.Utf8.mem_decodePieces (by rwa [UInt8.lt_iff_toNat_lt, byte]) bytes
  rw [byte, Char.ofNat_toNat] at pieces
  rw [Option.bind_eq_none_iff]
  -- In a text that can be decoded at all each piece is a character.
  intro s decoded
  rw [Text.Utf8.decodeStrict?] at decoded
  obtain ⟨cs, whole, rfl⟩ := Option.map_eq_some_iff.mp decoded
  have each : Text.Utf8.decodePieces (percentDecode host) = cs.map some := by
    rw [mapM_eq_some_iff_forall₂] at whole
    exact List.forall₂_eq_eq_eq ▸ List.forall₂_map_right_iff.mpr whole
  rw [each, List.mem_map_of_injective (Option.some_injective _)] at pieces
  rw [String.toList_ofList]
  exact DomainName.toAscii?_of_isDelimiter delimiter pieces

/-- What is read as a host is in brackets or has no delimiters. -/
theorem bracketed_or_clear (ok : parse host = .ok text) :
    (∃ inside, host = '[' :: (inside ++ [']'])) ∨ ∀ c ∈ host, ¬ IsDelimiter c := by
  unfold parse at ok
  split at ok
  · cases ok
  · next rest =>
    split at ok
    · next closed =>
      left
      obtain ⟨inside, rfl⟩ := List.getLast?_eq_some_iff.mp closed
      exact ⟨inside, rfl⟩
    · cases ok
  · right
    intro c member delimiter
    rw [toAscii?_percentDecode delimiter member] at ok
    cases ok

end UrlHost

end BeanMeter
