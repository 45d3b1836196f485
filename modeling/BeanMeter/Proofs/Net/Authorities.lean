import BeanMeter.Proofs.Net.Delimiters

/-! # Authorities of URLs

The part of a URL that names its host and port, and what it says about the port.

* `EndsInPort`, `WritesPort` — texts that name a port at their end.
* `Url.authority` — the authority of a URL.
* `Url.AuthorityPort` — the port that an authority has.
* `Url.authorityPort_of_parse` — the port of a URL is that of its authority.
* `Url.authority_append` — an authority that is left as it is written, whatever follows it.
-/

namespace BeanMeter

/-! ## Ports at the end of a text -/

/-- Texts that end in a colon and a decimal number. -/
def EndsInPort (port : Nat) (text : List Char) : Prop :=
  ∃ ds, ds ≠ [] ∧ ds.all isDigit = true ∧ ofDigits ds = port ∧ ':' :: ds <:+ text

/-- Texts that end in a colon and something after it, which is neither in brackets nor in front of
an at sign. -/
def WritesPort (text : List Char) : Prop :=
  ∃ ds, ds ≠ [] ∧ (∀ c ∈ ds, c ∉ [':', '@', ']']) ∧ ':' :: ds <:+ text

section

variable {port : Nat} {text lead ds : List Char}

theorem EndsInPort.writesPort (ends : EndsInPort port text) : WritesPort text := by
  obtain ⟨ds, some, digits, -, written⟩ := ends
  rw [List.all_eq_true] at digits
  refine ⟨ds, some, fun c member => ?_, written⟩
  have within := isDigit_iff.mp (digits c member)
  simp only [List.mem_cons, List.not_mem_nil, or_false, not_or]
  refine ⟨?_, ?_, ?_⟩ <;> rintro rfl <;> simp at within

/-- A text without colons in front of another one has no share in the port. -/
theorem colon_suffix_append_iff (clear : ':' ∉ lead) :
    ':' :: ds <:+ lead ++ text ↔ ':' :: ds <:+ text := by
  constructor
  · rintro ⟨before, same⟩
    rcases List.append_eq_append_iff.mp same with ⟨middle, rfl, whole⟩ | ⟨middle, -, rfl⟩
    · cases middle with
      | nil => exact ⟨[], whole⟩
      | cons c middle =>
        cases whole
        exact absurd (List.mem_append_right _ List.mem_cons_self) clear
    · exact List.suffix_append middle _
  · exact fun suffix => suffix.trans (List.suffix_append lead text)

/-- A colon that is not in the second of two texts stands in the first one. -/
theorem exists_of_colon_suffix (clear : ':' ∉ text) (suffix : ':' :: ds <:+ lead ++ text) :
    ∃ part, ds = part ++ text ∧ ':' :: part <:+ lead := by
  obtain ⟨before, same⟩ := suffix
  rcases List.append_eq_append_iff.mp same with ⟨middle, rfl, whole⟩ | ⟨middle, -, rfl⟩
  · cases middle with
    | nil =>
      rw [List.nil_append] at whole
      exact absurd (by rw [← whole]; exact List.mem_cons_self) clear
    | cons c part =>
      obtain ⟨rfl, rfl⟩ := List.cons.inj whole
      exact ⟨part, rfl, List.suffix_append _ _⟩
  · exact absurd (List.mem_append_right _ List.mem_cons_self) clear

theorem endsInPort_append_iff (clear : ':' ∉ lead) :
    EndsInPort port (lead ++ text) ↔ EndsInPort port text := by
  simp only [EndsInPort, colon_suffix_append_iff clear]

theorem writesPort_append_iff (clear : ':' ∉ lead) :
    WritesPort (lead ++ text) ↔ WritesPort text := by
  simp only [WritesPort, colon_suffix_append_iff clear]

theorem getLast?_of_colon_suffix (some : ds ≠ []) (suffix : ':' :: ds <:+ text) :
    text.getLast? = .some (ds.getLast some) := by
  obtain ⟨before, rfl⟩ := suffix
  rw [List.getLast?_append, List.getLast?_cons, List.getLast?_eq_some_getLast some]
  rfl

end

/-! ## Authorities -/

namespace Url

open UrlHost

variable {cs host port front rest : List Char} {url : Url}

/-- What a URL is read from: the text without controls and blanks at its end, and without tabs and
line ends. -/
def visible (cs : List Char) : List Char :=
  (cs.reverse.dropWhile fun c => c.toNat ≤ 0x20).reverse.filter fun c =>
    c != '\t' && c != '\n' && c != '\r'

/-- The authority of a URL, given what follows its scheme. -/
def authority (afterScheme : List Char) : List Char :=
  ((visible afterScheme).dropWhile UrlPath.isSlash).takeWhile fun c => !endsAuthority c

/-- What may stand in front of the host of an authority: nothing, or a user with an at sign. -/
def IsUser (user : List Char) : Prop := user = [] ∨ user.getLast? = some '@'

/-- The hosts of authorities: addresses in brackets, and texts without colons. -/
def IsHost (host : List Char) : Prop := (∃ inside, host = '[' :: (inside ++ [']'])) ∨ ':' ∉ host

/-- The port that an authority has: the number behind its last colon, or else the one that is known
for the scheme. -/
inductive AuthorityPort (known : Nat) : List Char → Nat → Prop
  | written {user host ds : List Char} (isUser : IsUser user) (isHost : IsHost host)
      (some : ds ≠ []) (digits : ds.all isDigit = true) :
      AuthorityPort known (user ++ host ++ ':' :: ds) (ofDigits ds)
  | known {user host tail : List Char} (isUser : IsUser user) (isHost : IsHost host)
      (bare : tail = [] ∨ tail = [':']) : AuthorityPort known (user ++ host ++ tail) known

/-- A colon of the user, or within an address, is not in front of a port. -/
theorem not_writesPort {user host tail : List Char} (isUser : IsUser user) (isHost : IsHost host)
    (bare : tail = [] ∨ tail = [':']) : ¬ WritesPort (user ++ host ++ tail) := by
  rintro ⟨ds, some, clear, suffix⟩
  have last : ds.getLast some ∈ ds := List.getLast_mem some
  have ends := getLast?_of_colon_suffix some suffix
  rcases bare with rfl | rfl
  · rw [List.append_nil] at suffix ends
    rcases isHost with ⟨inside, rfl⟩ | noColon
    · rw [← List.cons_append, ← List.append_assoc, List.getLast?_concat, Option.some_inj] at ends
      exact clear _ last (by simp [← ends])
    · -- The colon is one of the user, and the at sign behind it would be part of the port.
      obtain ⟨part, rfl, inside⟩ := exists_of_colon_suffix noColon suffix
      rcases isUser with rfl | sign
      · simp at inside
      · obtain ⟨before, rfl⟩ := inside
        rw [List.getLast?_append_of_ne_nil _ (by simp)] at sign
        have among : '@' ∈ part :=
          (List.mem_cons.mp (List.mem_of_getLast? sign)).resolve_left (by decide)
        exact clear '@' (List.mem_append_left _ among) (by simp)
  · rw [List.getLast?_concat, Option.some_inj] at ends
    exact clear _ last (by simp [← ends])

/-- An authority ends in the port that it has, unless it writes none. -/
theorem AuthorityPort.endsInPort_or {known port : Nat} {text : List Char}
    (has : AuthorityPort known text port) :
    EndsInPort port text ∨ port = known ∧ ¬ WritesPort text := by
  cases has with
  | written isUser isHost some digits =>
    exact .inl ⟨_, some, digits, rfl, List.suffix_append _ _⟩
  | known isUser isHost bare => exact .inr ⟨rfl, not_writesPort isUser isHost bare⟩

theorem splitHost_append (bracketed : Bool) (cs : List Char) :
    (splitHost bracketed cs).1 ++ (splitHost bracketed cs).2 = cs := by
  fun_induction splitHost bracketed cs with
  | case1 => rfl
  | case2 => rfl
  | case3 bracketed c rest _ bracketed' host tail found ih => simpa [found] using ih

theorem exists_user_append (authority : List Char) :
    ∃ user, IsUser user ∧ authority = user ++ dropUserInfo authority := by
  refine ⟨(authority.reverse.dropWhile (· != '@')).reverse, ?_, ?_⟩
  · have stop := List.head?_dropWhile_not (· != '@') authority.reverse
    rw [IsUser, List.getLast?_reverse]
    cases before : (authority.reverse.dropWhile (· != '@')).head? with
    | none => exact .inl (by simpa using before)
    | some c => exact .inr (by simpa [before] using stop)
  · rw [dropUserInfo, ← List.reverse_append, List.takeWhile_append_dropWhile,
      List.reverse_reverse]

/-- What is read as the host and the port of an authority stands behind its user. -/
theorem exists_of_parse (ok : parse cs = .ok url) :
    ∃ user host port, IsUser user ∧ authority cs = user ++ host ++ port ∧
      UrlHost.parse host = .ok url.host ∧ readPort port = .ok url.port := by
  unfold parse at ok
  obtain ⟨host, hostRead, ok⟩ := Except.bind_eq_ok_iff.mp ok
  obtain ⟨port, portRead, ok⟩ := Except.bind_eq_ok_iff.mp ok
  cases ok
  obtain ⟨user, isUser, whole⟩ := exists_user_append (authority cs)
  refine ⟨user, _, _, isUser, ?_, hostRead, portRead⟩
  rw [List.append_assoc, splitHost_append]
  exact whole

/-- The port that is read is the one that the authority has. -/
theorem authorityPort_of_parse {known : Nat} (ok : parse cs = .ok url) :
    AuthorityPort known (authority cs) (url.port.getD known) := by
  obtain ⟨user, host, port, isUser, whole, hostRead, portRead⟩ := exists_of_parse ok
  have isHost : IsHost host := by
    rcases bracketed_or_clear hostRead with bracketed | clear
    · exact .inl bracketed
    · exact .inr fun colon => clear ':' colon (.inl rfl)
  rw [whole]
  unfold readPort at portRead
  split at portRead
  · rw [← Except.ok.inj portRead]
    exact .known isUser isHost (.inl rfl)
  · rw [← Except.ok.inj portRead]
    exact .known isUser isHost (.inr rfl)
  · next ds some =>
    split at portRead
    · next fine =>
      rw [← Except.ok.inj portRead]
      refine .written isUser isHost ?_ fine.1
      rintro rfl
      exact some rfl
    · cases portRead
  · cases portRead

/-- Authorities that a URL leaves as they are written. -/
structure Tidy (authority : List Char) : Prop where
  some : authority ≠ []
  clear : ∀ c ∈ authority, 0x20 < c.toNat ∧ endsAuthority c = false

theorem visible_append (printed : ∀ c ∈ front, 0x20 < c.toNat) :
    visible (front ++ rest) = front ++ visible rest := by
  induction front with
  | nil => rfl
  | cons c front ih =>
    obtain ⟨above, others⟩ := List.forall_mem_cons.mp printed
    rw [List.cons_append, List.cons_append, ← ih others]
    have kept : (c != '\t' && c != '\n' && c != '\r') = true := by
      simp only [Bool.and_eq_true, bne_iff_ne, ne_eq, and_assoc]
      refine ⟨?_, ?_, ?_⟩ <;> rintro rfl <;> contradiction
    have stops : decide (c.toNat ≤ 0x20) = false := decide_eq_false (by omega)
    rw [visible, List.reverse_cons, Text.dropWhile_append_cons stops, List.reverse_append]
    simp [visible, kept]

theorem authority_append (tidy : Tidy front)
    (stop : ∀ c ∈ rest.head?, 0x20 < c.toNat ∧ endsAuthority c = true) :
    authority (front ++ rest) = front := by
  obtain ⟨some, clear⟩ := tidy
  have inside : ∀ c ∈ front, (!endsAuthority c) = true := by
    intro c member
    rw [(clear c member).2]
    rfl
  have noSlash : front.head?.any UrlPath.isSlash = false := by
    apply Text.head?_any_eq_false
    intro c member
    have apart := (clear c member).2
    simp only [endsAuthority, Bool.or_eq_false_iff] at apart
    exact apart.1.1
  have ends : (visible rest).takeWhile (fun c => !endsAuthority c) = [] := by
    cases rest with
    | nil => rfl
    | cons c rest =>
      obtain ⟨above, ends⟩ := stop c rfl
      have first : visible ([c] ++ rest) = [c] ++ visible rest :=
        visible_append (by simpa using above)
      rw [← List.singleton_append, first, List.singleton_append,
        List.takeWhile_cons_of_neg (by simp [ends])]
  rw [authority, visible_append fun c member => (clear c member).1, List.dropWhile_append,
    Text.dropWhile_eq_self noSlash]
  simp only [List.isEmpty_iff, some, if_false]
  rw [List.takeWhile_append_of_pos inside, ends, List.append_nil]

end Url

end BeanMeter
