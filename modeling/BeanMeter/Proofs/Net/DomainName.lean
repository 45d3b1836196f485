import BeanMeter.Net.DomainName
import BeanMeter.Proofs.Net.Punycode
import BeanMeter.Proofs.Outcome
import BeanMeter.Proofs.Text.Separators
import Mathlib.Data.List.Chain

/-! # Normal domain names

The ASCII form of a domain is its own ASCII form.

* `DomainName.codeSet` — runs of code points as the bits of a number, so that large tables are
  compared by one evaluation.
* `DomainName.Mapped` — the texts that mapping leaves as they are; every mapped text is one.
* `DomainName.Plain` — the characters of ASCII forms.
* `DomainName.toAscii?_self` — an ASCII form is read as itself.
-/

namespace BeanMeter.DomainName

variable {n : Nat} {c : Char} {cs : List Char}

/-! ## Runs of code points -/

/-- The code points `first, first + step, …` up to `last`. -/
structure Run where
  first : Nat
  last : Nat
  step : Nat

def Run.Has (r : Run) (n : Nat) : Prop :=
  r.first ≤ n ∧ n ≤ r.last ∧ (n - r.first) % r.step = 0

/-- The set of the code points of a run, as the bits of a number. -/
def Run.bits (r : Run) : Nat :=
  (List.range (r.last + 1 - r.first)).foldr
    (fun k bits => if k % r.step = 0 then 1 <<< (r.first + k) ||| bits else bits) 0

/-- The set of the code points of some runs, as the bits of a number. -/
def codeSet (runs : List Run) : Nat := runs.foldr (fun r bits => r.bits ||| bits) 0

theorem testBit_foldr {p : Nat → Prop} [DecidablePred p] {first : Nat} (ks : List Nat) :
    (ks.foldr (fun k bits => if p k then 1 <<< (first + k) ||| bits else bits) 0).testBit n = true ↔
      ∃ k ∈ ks, p k ∧ first + k = n := by
  induction ks with
  | nil => simp
  | cons k ks ih =>
    rw [List.foldr_cons]
    split
    · next holds =>
      rw [Nat.testBit_or, Bool.or_eq_true, ih, Nat.one_shiftLeft, Nat.testBit_two_pow]
      simp [holds]
    · next fails => simp [ih, fails]

theorem Run.testBit_bits {r : Run} : r.bits.testBit n = true ↔ r.Has n := by
  rw [Run.bits, testBit_foldr, Run.Has]
  constructor
  · rintro ⟨k, member, step, rfl⟩
    rw [List.mem_range] at member
    exact ⟨by omega, by omega, by rwa [Nat.add_sub_cancel_left]⟩
  · rintro ⟨above, below, step⟩
    exact ⟨n - r.first, List.mem_range.mpr (by omega), step, by omega⟩

theorem testBit_codeSet {runs : List Run} :
    (codeSet runs).testBit n = true ↔ ∃ r ∈ runs, r.Has n := by
  induction runs with
  | nil => simp [codeSet]
  | cons r runs ih =>
    have both : codeSet (r :: runs) = r.bits ||| codeSet runs := rfl
    rw [both, Nat.testBit_or, Bool.or_eq_true, Run.testBit_bits, ih]
    simp

theorem not_has_of_disjoint {runs others : List Run}
    (disjoint : codeSet runs &&& codeSet others = 0) {r : Run} (member : r ∈ runs)
    (has : r.Has n) : ¬ ∃ s ∈ others, s.Has n := by
  intro other
  have both : (codeSet runs &&& codeSet others).testBit n = true := by
    rw [Nat.testBit_and, testBit_codeSet.mpr ⟨r, member, has⟩, testBit_codeSet.mpr other]
    rfl
  rw [disjoint] at both
  simp at both

/-! ## Characters that stay as they are -/

/-- The runs of characters that are replaced by others, or by nothing. -/
def replacedRuns : List Run :=
  [⟨0x3002, 0x3002, 1⟩, ⟨0xff0e, 0xff0e, 1⟩, ⟨0xff61, 0xff61, 1⟩, ⟨0x130, 0x130, 1⟩,
    ⟨0xfb00, 0xfb06, 1⟩] ++
  (ignoredRanges ++ spaceRanges).map (fun r => ⟨r.1, r.2, 1⟩) ++
  shapedRuns.map (fun r => ⟨r.first, r.last, 1⟩) ++
  Text.lowerRanges.map fun r => ⟨r.first, r.last, r.step⟩

/-- No run of replaced characters has a code point. -/
def Stays (n : Nat) : Prop := ¬ ∃ r ∈ replacedRuns, r.Has n

theorem stays_iff : Stays n ↔
    n ∉ [0x3002, 0xff0e, 0xff61, 0x130] ∧ ¬ (0xfb00 ≤ n ∧ n ≤ 0xfb06) ∧
      Text.inRanges (ignoredRanges ++ spaceRanges) n = false ∧
      shapedRuns.find? (fun r => r.first ≤ n && n ≤ r.last) = none ∧
      Text.lowerRanges.find? (fun r =>
        r.first ≤ n && n ≤ r.last && (n - r.first) % r.step == 0) = none := by
  have apart : Stays n ↔ ∀ r ∈ replacedRuns, ¬ r.Has n := by simp [Stays]
  have single (m : Nat) : (m ≤ n → m < n) ↔ ¬ n = m := by omega
  rw [apart, replacedRuns, List.forall_mem_append, List.forall_mem_append, List.forall_mem_append,
    List.forall_mem_map, List.forall_mem_map, List.forall_mem_map, Text.inRanges,
    List.any_eq_false, List.find?_eq_none, List.find?_eq_none]
  simp [Run.Has, Nat.mod_one, single, and_assoc]

/-- No ASCII character but a capital letter changes, and none becomes a capital letter. -/
theorem toLower_ascii : ∀ n : Fin 0x80,
    (¬ (0x41 ≤ n.val ∧ n.val ≤ 0x5a) → (Char.ofNat n).toLower = Char.ofNat n) ∧
      (Char.ofNat n).toLower.toNat < 0x80 ∧
      ¬ (0x41 ≤ (Char.ofNat n).toLower.toNat ∧ (Char.ofNat n).toLower.toNat ≤ 0x5a) := by
  decide +kernel

theorem toLower_eq_self (small : n < 0x80) (stays : Stays n) :
    (Char.ofNat n).toLower = Char.ofNat n := by
  have capitals : ⟨0x41, 0x5a, 1⟩ ∈ replacedRuns := by
    have first : (⟨0x41, 0x5a, 1, 0x61⟩ : Text.CaseRange) ∈ Text.lowerRanges := by
      rw [Text.lowerRanges]
      exact List.mem_cons_self
    exact List.mem_append_right _ (List.mem_map.mpr ⟨_, first, rfl⟩)
  exact (toLower_ascii ⟨n, small⟩).1 fun capital =>
    stays ⟨_, capitals, capital.1, capital.2, Nat.mod_one _⟩

theorem lowerChar_of_stays (stays : Stays c.toNat) : Text.lowerChar c = [c] := by
  obtain ⟨single, -, -, -, uncased⟩ := stays_iff.mp stays
  simp only [List.mem_cons, not_or] at single
  unfold Text.lowerChar
  dsimp only
  rw [if_neg single.2.2.2.1, uncased]
  split
  · next small =>
    have same := toLower_eq_self small stays
    rw [Char.ofNat_toNat] at same
    rw [same]
  · rfl

theorem plainChars_of_stays (stays : Stays c.toNat) : plainChars c = [c] := by
  obtain ⟨-, ligature, -, unshaped, -⟩ := stays_iff.mp stays
  unfold plainChars
  dsimp only
  rw [unshaped]
  dsimp only
  split
  · have none : ligatures[c.toNat - 0xfb00]? = none := by
      rw [List.getElem?_eq_none_iff]
      simp [ligatures]
      omega
    rw [none]
    rfl
  · rfl

theorem isStop_iff : (c = Char.ofNat 0x3002 ∨ c = Char.ofNat 0xff0e ∨ c = Char.ofNat 0xff61) ↔
    c.toNat ∈ [0x3002, 0xff0e, 0xff61] := by
  simp only [← Char.toNat_inj, List.mem_cons, List.not_mem_nil, or_false]
  exact Iff.rfl

theorem mapChar_of_stays (stays : Stays c.toNat) : mapChar c = [c] := by
  obtain ⟨single, -, none, -⟩ := stays_iff.mp stays
  have noStop : ¬ (c = Char.ofNat 0x3002 ∨ c = Char.ofNat 0xff0e ∨ c = Char.ofNat 0xff61) := by
    rw [isStop_iff]
    exact fun stop => single (List.mem_append_left [0x130] stop)
  rw [Text.inRanges, List.any_append, Bool.or_eq_false_iff] at none
  have notIgnored : isAmong ignoredRanges c = false := none.1
  have notSpace : isAmong spaceRanges c = false := none.2
  rw [mapChar, if_neg noStop, notIgnored, notSpace, plainChars_of_stays stays]
  simp [lowerChar_of_stays stays]

/-! ## Tables of characters -/

/-- The runs that characters which are no shapes of others are replaced by. -/
def imageRuns : List Run :=
  [⟨0, 0x40, 1⟩, ⟨0x5b, 0x7f, 1⟩, ⟨0x307, 0x307, 1⟩] ++
  (Text.lowerRanges.filter fun r =>
    !shapedRuns.any fun s => s.first ≤ r.first && r.last ≤ s.last).map
    fun r => ⟨r.image, r.image + (r.last - r.first), r.step⟩

def markRuns : List Run := Text.compositions.map fun m => ⟨m.1, m.1, 1⟩

/-- What characters and marks join to; zero stands for a code point that is no character. -/
def joinedRuns : List Run :=
  ⟨0, 0, 1⟩ :: Text.compositions.flatMap fun m => m.2.map fun p => ⟨p.2, p.2, 1⟩

/-- What replaces a character is not replaced itself, what a mark makes is no mark, and it is
replaced only if the character before the mark is. -/
theorem tables_agree : codeSet imageRuns &&& codeSet replacedRuns = 0 ∧
    codeSet joinedRuns &&& codeSet markRuns = 0 ∧
    (Text.compositions.all fun m => m.2.all fun p =>
      (codeSet replacedRuns).testBit p.1 || !(codeSet replacedRuns).testBit p.2) = true := by
  decide +kernel

/-! ## Replaced characters -/

theorem stays_of_image {r : Run} (member : r ∈ imageRuns) (has : r.Has n) : Stays n :=
  not_has_of_disjoint tables_agree.1 member has

theorem stays_of_ascii (ascii : n < 0x80) (small : ¬ (0x41 ≤ n ∧ n ≤ 0x5a)) : Stays n := by
  by_cases below : n ≤ 0x40
  · exact stays_of_image (r := ⟨0, 0x40, 1⟩) (by simp [imageRuns])
      ⟨Nat.zero_le n, below, Nat.mod_one _⟩
  · refine stays_of_image (r := ⟨0x5b, 0x7f, 1⟩) (by simp [imageRuns]) ⟨?_, ?_, Nat.mod_one _⟩ <;>
      dsimp only <;> omega

theorem stays_ofNat (stays : Stays n) : Stays (Char.ofNat n).toNat := by
  rcases Text.toNat_ofNat_or n with code | code <;> rw [code]
  · exact stays
  · exact stays_of_ascii (by omega) (by omega)

theorem lowerChar_ascii (ascii : c.toNat < 0x80) : ∀ x ∈ Text.lowerChar c, Stays x.toNat := by
  have small := (toLower_ascii ⟨c.toNat, ascii⟩).2
  rw [Char.ofNat_toNat] at small
  simp only [Text.lowerChar, if_pos ascii, List.mem_singleton, forall_eq]
  exact stays_of_ascii small.1 small.2

/-- Characters that are shapes of others become ASCII characters. -/
theorem plainChars_eq_or (c : Char) : (∀ x ∈ plainChars c, x.toNat < 0x80) ∨
    plainChars c = [c] ∧ shapedRuns.find? (fun r => r.first ≤ c.toNat && c.toNat ≤ r.last) = none ∧
      ¬ (0xfb00 ≤ c.toNat ∧ c.toNat ≤ 0xfb06) := by
  unfold plainChars
  dsimp only
  split
  · next r found =>
    have within := List.find?_some found
    simp only [Bool.and_eq_true, decide_eq_true_eq] at within
    have images : ∀ r ∈ shapedRuns, r.image + (r.last - r.first) < 0x80 := by decide
    have image := images r (List.mem_of_find?_eq_some found)
    left
    simp only [List.mem_singleton, forall_eq]
    rcases Text.toNat_ofNat_or (r.image + (c.toNat - r.first)) with code | code <;> omega
  · next unshaped =>
    split
    · next above =>
      cases letters : ligatures[c.toNat - 0xfb00]? with
      | none =>
        rw [List.getElem?_eq_none_iff] at letters
        have beyond : ¬ (0xfb00 ≤ c.toNat ∧ c.toNat ≤ 0xfb06) := by
          simp [ligatures] at letters
          omega
        exact .inr ⟨rfl, unshaped, beyond⟩
      | some s =>
        have ascii : ∀ s ∈ ligatures, s.toList.all (·.toNat < 0x80) = true := by decide
        left
        simpa using ascii s (List.mem_of_getElem? letters)
    · next below => exact .inr ⟨rfl, unshaped, by omega⟩

theorem lowerChar_stays
    (single : c.toNat ∉ [0x3002, 0xff0e, 0xff61]) (letter : ¬ (0xfb00 ≤ c.toNat ∧ c.toNat ≤ 0xfb06))
    (visible : Text.inRanges (ignoredRanges ++ spaceRanges) c.toNat = false)
    (unshaped : shapedRuns.find? (fun r => r.first ≤ c.toNat && c.toNat ≤ r.last) = none) :
    ∀ x ∈ Text.lowerChar c, Stays x.toNat := by
  by_cases ascii : c.toNat < 0x80
  · exact lowerChar_ascii ascii
  · unfold Text.lowerChar
    dsimp only
    rw [if_neg ascii]
    split_ifs with dotted
    · have dot : Stays 0x307 := stays_of_image (r := ⟨0x307, 0x307, 1⟩) (by simp [imageRuns])
        ⟨Nat.le_refl _, Nat.le_refl _, Nat.mod_one _⟩
      simpa using ⟨stays_of_ascii (n := 'i'.toNat) (by decide) (by decide), stays_ofNat dot⟩
    · split
      · next r found =>
        have within := List.find?_some found
        simp only [Bool.and_eq_true, decide_eq_true_eq, beq_iff_eq] at within
        -- A run of shapes that covers the run of letters would have the character as well.
        have own : (!shapedRuns.any fun s => s.first ≤ r.first && r.last ≤ s.last) = true := by
          rw [Bool.not_eq_true', List.any_eq_false]
          intro s member covers
          rw [List.find?_eq_none] at unshaped
          simp only [Bool.and_eq_true, decide_eq_true_eq] at covers unshaped
          exact unshaped s member ⟨covers.1.trans within.1.1, within.1.2.trans covers.2⟩
        have member : ⟨r.image, r.image + (r.last - r.first), r.step⟩ ∈ imageRuns :=
          List.mem_append_right _ (List.mem_map.mpr
            ⟨r, List.mem_filter.mpr ⟨List.mem_of_find?_eq_some found, own⟩, rfl⟩)
        have image : Stays (r.image + (c.toNat - r.first)) :=
          stays_of_image member ⟨Nat.le_add_right _ _,
            Nat.add_le_add_left (Nat.sub_le_sub_right within.1.2 _) _,
            by rw [Nat.add_sub_cancel_left]; exact within.2⟩
        simpa using stays_ofNat image
      · next uncased =>
        simp only [List.mem_singleton, forall_eq]
        refine stays_iff.mpr ⟨?_, letter, visible, unshaped, uncased⟩
        simp only [List.mem_cons, not_or] at single ⊢
        exact ⟨single.1, single.2.1, single.2.2.1, dotted, single.2.2.2⟩

theorem mapChar_stays : ∀ x ∈ mapChar c, Stays x.toNat := by
  unfold mapChar
  split_ifs with stop ignored space
  · simpa using stays_of_ascii (n := '.'.toNat) (by decide) (by decide)
  · simp
  · simpa using stays_of_ascii (n := ' '.toNat) (by decide) (by decide)
  · rcases plainChars_eq_or c with ascii | ⟨own, unshaped, letter⟩
    · intro x member
      obtain ⟨plain, among, member⟩ := List.mem_flatMap.mp member
      exact lowerChar_ascii (ascii plain among) x member
    · have visible : Text.inRanges (ignoredRanges ++ spaceRanges) c.toNat = false := by
        rw [Text.inRanges, List.any_append, Bool.or_eq_false_iff]
        exact ⟨Bool.eq_false_iff.mpr ignored, Bool.eq_false_iff.mpr space⟩
      rw [own, List.flatMap_singleton]
      exact lowerChar_stays (isStop_iff.not.mp stop) letter visible unshaped

/-! ## Joined characters -/

/-- Whether a character is a mark that joins with others. -/
def IsMark (c : Char) : Prop := ∃ r ∈ markRuns, r.Has c.toNat

theorem has_single {m : Nat} : (⟨m, m, 1⟩ : Run).Has n ↔ n = m := by
  simp [Run.Has, Nat.mod_one]
  omega

theorem exists_of_join? {mark joined : Char} (joins : Text.join? c mark = some joined) :
    ∃ m ∈ Text.compositions, m.1 = mark.toNat ∧ ∃ p ∈ m.2, p.1 = c.toNat ∧
      joined = Char.ofNat p.2 := by
  rw [Text.join?] at joins
  split at joins
  · cases joins
  · obtain ⟨m, found, joins⟩ := Option.bind_eq_some_iff.mp joins
    obtain ⟨p, pair, joins⟩ := Option.bind_eq_some_iff.mp joins
    refine ⟨m, List.mem_of_find?_eq_some found, by simpa using List.find?_some found, p,
      List.mem_of_find?_eq_some pair, by simpa using List.find?_some pair, ?_⟩
    simpa using joins.symm

theorem isMark_of_join? {mark joined : Char} (joins : Text.join? c mark = some joined) :
    IsMark mark := by
  obtain ⟨m, member, code, -⟩ := exists_of_join? joins
  exact ⟨⟨m.1, m.1, 1⟩, List.mem_map.mpr ⟨m, member, rfl⟩, has_single.mpr code.symm⟩

theorem not_isMark_of_join? {mark joined : Char} (joins : Text.join? c mark = some joined) :
    ¬ IsMark joined := by
  obtain ⟨m, member, -, p, pair, -, rfl⟩ := exists_of_join? joins
  have made : ⟨p.2, p.2, 1⟩ ∈ joinedRuns := List.mem_cons_of_mem _
    (List.mem_flatMap.mpr ⟨m, member, List.mem_map.mpr ⟨p, pair, rfl⟩⟩)
  rw [IsMark]
  rcases Text.toNat_ofNat_or p.2 with code | code <;> rw [code]
  · exact not_has_of_disjoint tables_agree.2.1 made (has_single.mpr rfl)
  · exact not_has_of_disjoint tables_agree.2.1 List.mem_cons_self (has_single.mpr rfl)

theorem stays_of_join? {mark joined : Char} (joins : Text.join? c mark = some joined)
    (stays : Stays c.toNat) : Stays joined.toNat := by
  obtain ⟨m, member, -, p, pair, code, rfl⟩ := exists_of_join? joins
  have each := List.all_eq_true.mp (List.all_eq_true.mp tables_agree.2.2 m member) p pair
  rw [code, Bool.or_eq_true, Bool.not_eq_true', testBit_codeSet, ← Bool.not_eq_true,
    testBit_codeSet] at each
  exact stays_ofNat (each.resolve_left stays)

/-- The texts that mapping leaves as they are. -/
def Mapped (cs : List Char) : Prop :=
  (∀ c ∈ cs, Stays c.toNat) ∧ cs.IsChain fun a b => Text.join? a b = none

theorem composeAfter_mapped {last : Char} (stays : ∀ c ∈ last :: cs, Stays c.toNat) :
    Mapped (Text.composeAfter last cs) ∧
      ∃ first rest, Text.composeAfter last cs = first :: rest ∧
        (first = last ∨ ¬ IsMark first) := by
  induction cs generalizing last with
  | nil => exact ⟨⟨stays, .singleton last⟩, last, [], rfl, .inl rfl⟩
  | cons c cs ih =>
    simp only [List.forall_mem_cons] at stays ih
    obtain ⟨own, next, others⟩ := stays
    rw [Text.composeAfter]
    split
    · next joined joins =>
      obtain ⟨mapped, first, rest, composed, start⟩ := ih ⟨stays_of_join? joins own, others⟩
      refine ⟨mapped, first, rest, composed, .inr ?_⟩
      rcases start with rfl | other
      · exact not_isMark_of_join? joins
      · exact other
    · next apart =>
      obtain ⟨⟨stay, chain⟩, first, rest, composed, start⟩ := ih ⟨next, others⟩
      rw [composed] at stay chain ⊢
      -- What follows is the next character, or a joined one, which is no mark.
      have link : Text.join? last first = none := by
        rcases start with rfl | other
        · exact apart
        · rw [Option.eq_none_iff_forall_ne_some]
          exact fun joined joins => other (isMark_of_join? joins)
      exact ⟨⟨List.forall_mem_cons.mpr ⟨own, stay⟩, chain.cons_cons link⟩, last, first :: rest, rfl,
        .inl rfl⟩

theorem mapped_mapped (domain : List Char) : Mapped (mapped domain) := by
  have stays : ∀ c ∈ domain.flatMap mapChar, Stays c.toNat := by
    intro c member
    obtain ⟨d, -, member⟩ := List.mem_flatMap.mp member
    exact mapChar_stays c member
  rw [mapped]
  cases flat : domain.flatMap mapChar with
  | nil => exact ⟨by simp [Text.compose], .nil⟩
  | cons last cs =>
    rw [flat] at stays
    exact (composeAfter_mapped stays).1

theorem composeAfter_eq_self {last : Char}
    (chain : (last :: cs).IsChain fun a b => Text.join? a b = none) :
    Text.composeAfter last cs = last :: cs := by
  induction cs generalizing last with
  | nil => rfl
  | cons c cs ih =>
    rw [List.isChain_cons_cons] at chain
    rw [Text.composeAfter, chain.1]
    dsimp only
    rw [ih chain.2]

theorem Mapped.mapped_eq (own : Mapped cs) : mapped cs = cs := by
  have same : cs.flatMap mapChar = cs := by
    rw [List.flatMap_congr fun c member => mapChar_of_stays (own.1 c member)]
    exact List.flatMap_singleton' cs
  rw [mapped, same]
  cases cs with
  | nil => rfl
  | cons last cs => exact composeAfter_eq_self own.2

theorem Mapped.of_isInfix {part : List Char} (own : Mapped cs) (within : part <:+: cs) :
    Mapped part := by
  refine ⟨fun c member => own.1 c (within.subset member), ?_⟩
  obtain ⟨before, after, rfl⟩ := within
  exact (List.isChain_append.mp (List.isChain_append.mp own.2).1).2.1

/-- No mark is an ASCII character. -/
theorem mapped_of_ascii (ascii : ∀ c ∈ cs, c.toNat < 0x80 ∧ Stays c.toNat) : Mapped cs := by
  refine ⟨fun c member => (ascii c member).2, ?_⟩
  rw [List.isChain_iff_getElem]
  intro i within
  have low := (ascii _ (List.getElem_mem within)).1
  rw [Text.join?, if_pos (by omega)]

/-! ## Labels and domains -/

/-- The characters of ASCII forms. -/
def Plain (c : Char) : Prop := (c.toNat < 0x80 ∧ Stays c.toNat) ∧ isForbidden c = false

theorem plain_digit {d : Nat} (small : d < 36) : Plain (Punycode.digit d) ∧
    Punycode.digit d ≠ '.' := by
  have all : ∀ d : Fin 36, ((Punycode.digit d).toNat < 0x80 ∧
      ¬ (0x41 ≤ (Punycode.digit d).toNat ∧ (Punycode.digit d).toNat ≤ 0x5a)) ∧
      isForbidden (Punycode.digit d) = false ∧ Punycode.digit d ≠ '.' := by decide
  obtain ⟨⟨ascii, small⟩, allowed, apart⟩ := all ⟨d, small⟩
  exact ⟨⟨⟨ascii, stays_of_ascii ascii small⟩, allowed⟩, apart⟩

theorem plain_mark : ∀ c ∈ '-' :: mark, Plain c ∧ c ≠ '.' := by
  have all : (('-' :: mark).all fun c => c.toNat < 0x80 && !(0x41 ≤ c.toNat && c.toNat ≤ 0x5a) &&
      !isForbidden c && c != '.') = true := by decide
  intro c member
  have own := List.all_eq_true.mp all c member
  simp at own
  exact ⟨⟨⟨own.1.1.1, stays_of_ascii own.1.1.1 (by omega)⟩, own.1.2⟩, own.2⟩

theorem plain_encode {label : List Char}
    (clear : ∀ c ∈ label, Stays c.toNat ∧ isForbidden c = false ∧ c ≠ '.') :
    ∀ c ∈ mark ++ Punycode.encode label, Plain c ∧ c ≠ '.' := by
  obtain ⟨ds, t, written, writes, -⟩ := Punycode.exists_encode_eq label
  have literal : ∀ c ∈ Punycode.literal label, Plain c ∧ c ≠ '.' := by
    intro c member
    rw [Punycode.literal] at member
    split at member
    · cases member
    · rw [List.mem_append, List.mem_singleton, List.mem_filter, decide_eq_true_iff] at member
      rcases member with ⟨among, ascii⟩ | rfl
      · obtain ⟨stays, allowed, apart⟩ := clear c among
        exact ⟨⟨⟨ascii, stays⟩, allowed⟩, apart⟩
      · exact plain_mark _ List.mem_cons_self
  intro c member
  rw [written, List.mem_append, List.mem_append] at member
  rcases member with marks | literals | digits
  · exact plain_mark c (List.mem_cons_of_mem _ marks)
  · exact literal c literals
  · obtain ⟨d, small, rfl⟩ := writes.digits c digits
    exact plain_digit small

theorem all_ascii {label : List Char} (plain : ∀ c ∈ label, Plain c ∧ c ≠ '.') :
    label.all (·.toNat < 0x80) = true := by
  rw [List.all_eq_true]
  exact fun c member => decide_eq_true (plain c member).1.1.1

/-- The ASCII form of a label is its own. -/
theorem labelToAscii?_self {label ascii : List Char} (own : Mapped label)
    (clear : ∀ c ∈ label, isForbidden c = false ∧ c ≠ '.')
    (ok : labelToAscii? label = some ascii) :
    (∀ c ∈ ascii, Plain c ∧ c ≠ '.') ∧ labelToAscii? ascii = some ascii := by
  have stays : ∀ c ∈ label, Stays c.toNat ∧ isForbidden c = false ∧ c ≠ '.' :=
    fun c member => ⟨own.1 c member, clear c member⟩
  by_cases low : label.all (·.toNat < 0x80) = true
  · have same : ascii = label := by
      rw [labelToAscii?, if_pos low] at ok
      split at ok
      · exact (Option.some.inj ok).symm
      · split at ok
        · cases ok
        · split at ok
          · cases ok
          · exact (Option.some.inj ok).symm
    subst same
    rw [List.all_eq_true] at low
    refine ⟨fun c member => ?_, ok⟩
    exact ⟨⟨⟨of_decide_eq_true (low c member), own.1 c member⟩, (clear c member).1⟩,
      (clear c member).2⟩
  · rw [labelToAscii?, if_neg low] at ok
    split at ok
    · cases ok
    · next start =>
      cases ok
      have plain := plain_encode stays
      have marked : Text.stripStart? mark (mark ++ Punycode.encode label) =
          some (Punycode.encode label) := Text.stripStart?_eq_some_iff.mpr rfl
      have allowed : label.any isForbidden = false := by
        rw [List.any_eq_false]
        exact fun c member => Bool.eq_false_iff.mp (clear c member).1
      have proper : ¬ (label.all (·.toNat < 0x80) = true ∨ mapped label ≠ label ∨
          startsJoined label = true ∨ label.any isForbidden = true) := by
        simp [low, own.mapped_eq, start, allowed]
      refine ⟨plain, ?_⟩
      rw [labelToAscii?, if_pos (all_ascii plain), marked]
      dsimp only
      rw [Punycode.decode?_encode]
      dsimp only
      rw [if_neg proper]

theorem plain_intercalate {labels : List (List Char)}
    (plain : ∀ label ∈ labels, ∀ c ∈ label, Plain c ∧ c ≠ '.') :
    ∀ c ∈ ['.'].intercalate labels, Plain c := by
  have dot : Plain '.' := ⟨⟨by decide, stays_of_ascii (by decide) (by decide)⟩, by decide⟩
  exact Text.forall_mem_intercalate (by simpa using dot)
    fun label among c inside => (plain label among c inside).1

theorem toAscii?_intercalate {labels : List (List Char)} (some : labels ≠ [])
    (plain : ∀ label ∈ labels, ∀ c ∈ label, Plain c ∧ c ≠ '.')
    (own : ∀ label ∈ labels, labelToAscii? label = .some label) :
    toAscii? (['.'].intercalate labels) = .some (['.'].intercalate labels) := by
  have whole := plain_intercalate plain
  have same : mapped (['.'].intercalate labels) = ['.'].intercalate labels :=
    (mapped_of_ascii fun c member => (whole c member).1).mapped_eq
  have allowed : (['.'].intercalate labels).any isForbidden = false := by
    rw [List.any_eq_false]
    exact fun c member => Bool.eq_false_iff.mp (whole c member).2
  have pieces : Text.splitOn '.' (['.'].intercalate labels) = labels :=
    Text.splitOn_intercalate some fun label among member => (plain label among '.' member).2 rfl
  have each : labels.mapM labelToAscii? = .some labels :=
    mapM_eq_some_iff_forall₂.mpr (List.forall₂_same.mpr own)
  rw [toAscii?, same, allowed, pieces, each]
  simp [String.toList_intercalate]

/-- The ASCII form of a domain is its own. -/
theorem toAscii?_self {domain ascii : List Char} (ok : toAscii? domain = some ascii) :
    (∀ c ∈ ascii, Plain c) ∧ toAscii? ascii = some ascii := by
  rw [toAscii?] at ok
  split at ok
  · cases ok
  · next allowed =>
    obtain ⟨labels, each, joined⟩ := Option.map_eq_some_iff.mp ok
    have own : ∀ label ∈ labels, (∀ c ∈ label, Plain c ∧ c ≠ '.') ∧
        labelToAscii? label = some label := by
      intro label member
      obtain ⟨piece, among, found⟩ := mem_of_mapM_eq_some each member
      have within := Text.isInfix_of_mem_splitOn among
      have noDot : ∀ piece ∈ Text.splitOn '.' (mapped domain), ∀ c ∈ piece, c ≠ '.' :=
        Text.forall_mem_splitOn_iff.mpr fun c _ => Classical.em (c = '.')
      rw [Bool.not_eq_true, List.any_eq_false] at allowed
      exact labelToAscii?_self ((mapped_mapped domain).of_isInfix within)
        (fun c inside => ⟨Bool.eq_false_iff.mpr (allowed c (within.subset inside)),
          noDot piece among c inside⟩) found
    have some : labels ≠ [] := by
      rintro rfl
      have none := List.forall₂_nil_right_iff.mp (mapM_eq_some_iff_forall₂.mp each)
      exact Text.splitOn_ne_nil none
    have whole : (".".intercalate (labels.map String.ofList)).toList =
        ['.'].intercalate labels := by
      simp [String.toList_intercalate]
    rw [whole] at joined
    subst joined
    exact ⟨plain_intercalate fun label member => (own label member).1,
      toAscii?_intercalate some (fun label member => (own label member).1)
        fun label member => (own label member).2⟩

end BeanMeter.DomainName
