import BeanMeter.CommandLine.Arguments
import BeanMeter.Proofs.Outcome

/-! # Switches for reports

A command line that asks for a report is read as if the words for it were not there. Without them
the value of an option before such a word is taken a little later.

* `Arguments.withoutReports` — the words that are left.
* `Arguments.parse_withoutReports` — what they ask for.
-/

namespace BeanMeter

namespace Arguments

namespace Draft

/-- A draft without the switches for reports. -/
def plain (d : Draft) : Draft := { d with validate := false, dryRun := false }

/-- Where reading stands with the switches for reports, and where it stands without them. -/
inductive Follows : Draft × Option Open → Draft × Option Open → Prop
  | same (d : Draft) (pending : Option Open) : Follows (d, pending) (d.plain, pending)
  /-- A switch has closed an option that is still open without it. -/
  | behind {d e : Draft} {pending : Option Open} (closes : e.close pending = .ok d.plain) :
    Follows (d, none) (e, pending)

section

variable {d e d' : Draft} {p q : Option Open} {s : Draft × Option Open}

theorem set_plain (d : Draft) (o : ValueOption) (text : String) :
    d.plain.set o text = (d.set o text).map plain := by
  cases o with
  | property =>
    unfold set
    cases readProperty text <;> rfl
  | config =>
    unfold set
    rw [show d.plain.config = d.config from rfl]
    cases once d.config (fileName text) <;> rfl
  | logLevel =>
    unfold set
    rw [show d.plain.logLevel = d.logLevel from rfl]
    cases once d.logLevel (choose LogLevel.words text) <;> rfl
  | logFormat =>
    unfold set
    rw [show d.plain.logFormat = d.logFormat from rfl]
    cases once d.logFormat (choose LogFormat.words text) <;> rfl
  | outputFormat =>
    unfold set
    rw [show d.plain.outputFormat = d.outputFormat from rfl]
    cases once d.outputFormat (choose OutputFormat.words text) <;> rfl

theorem close_plain (d : Draft) (pending : Option Open) :
    d.plain.close pending = (d.close pending).map plain := by
  cases pending with
  | none => rfl
  | some last =>
    obtain ⟨o, text⟩ := last
    cases text with
    | none => rfl
    | some text => exact set_plain d o text

theorem Follows.close (follows : Follows (d, p) (e, q)) (closed : d.close p = .ok d') :
    e.close q = .ok d'.plain := by
  cases follows with
  | same => rw [close_plain, closed]; rfl
  | behind closes =>
    cases closed
    exact closes

theorem Follows.take {o : ValueOption} {text : Option String} (follows : Follows (d, p) (e, q))
    (taken : d.take p o text = .ok s) : e.take q o text = .ok (s.1.plain, s.2) := by
  obtain ⟨d₁, closed, taken⟩ := Except.bind_eq_ok_iff.mp taken
  rw [Draft.take, follows.close closed]
  cases text with
  | none =>
    cases taken
    rfl
  | some text =>
    obtain ⟨d₂, set, done⟩ := Except.bind_eq_ok_iff.mp taken
    cases done
    have later : d₁.plain.set o text = .ok d₂.plain := by rw [set_plain, set]; rfl
    simp [later, bind, Except.bind, pure, Except.pure]

theorem turnOn_report {w : Switch} (on : d.turnOn w = .ok d') :
    (w = .validate ∨ w = .dryRun) ∧ d'.plain = d.plain := by
  cases w with
  | help | version => cases on
  | validate =>
    simp only [turnOn] at on
    split at on
    · cases on
    · cases on
      exact ⟨.inl rfl, rfl⟩
  | dryRun =>
    simp only [turnOn] at on
    split at on
    · cases on
    · cases on
      exact ⟨.inr rfl, rfl⟩

/-- The words that ask for a report, without the dashes. -/
def IsReport (name : List Char) : Prop := name = "validate".toList ∨ name = "dry-run".toList

/-- Only the switches for reports do not end the reading, and they have no letter. -/
theorem no_letter {letter : Char} {w : Switch} (on : d.turnOn w = .ok d') :
    (letter, CommandOption.switch w) ∉ CommandOption.letters := by
  rcases (turnOn_report on).1 with rfl | rfl <;> simp [CommandOption.letters]

theorem isReport_of_long {word : String} {w : Switch} (on : d.turnOn w = .ok d')
    (member : (word, CommandOption.switch w) ∈ CommandOption.longNames) :
    IsReport word.toList := by
  rcases (turnOn_report on).1 with rfl | rfl <;>
    simp [CommandOption.longNames] at member <;> subst member
  · exact .inl rfl
  · exact .inr rfl

theorem Follows.short {c : Char} {rest : List Char} (follows : Follows (d, p) (e, q))
    (taken : d.short p (c :: rest) = .ok s) : e.short q (c :: rest) = .ok (s.1.plain, s.2) := by
  unfold Draft.short at taken ⊢
  cases found : CommandOption.letters.find? fun o => o.1 == c with
  | none => simp [found] at taken
  | some entry =>
    obtain ⟨letter, option⟩ := entry
    simp only [found] at taken ⊢
    cases option with
    | value o => exact follows.take taken
    | switch w =>
      obtain ⟨d₁, _, taken⟩ := Except.bind_eq_ok_iff.mp taken
      obtain ⟨d₂, on, _⟩ := Except.bind_eq_ok_iff.mp taken
      exact absurd (List.mem_of_find?_eq_some found) (no_letter on)

theorem long_report {name : List Char} (report : IsReport name) :
    ∃ w, d.long p name = (d.close p).bind fun d => (d.turnOn w).map fun d => (d, none) := by
  rcases report with rfl | rfl
  · exact ⟨.validate, rfl⟩
  · exact ⟨.dryRun, rfl⟩

theorem Follows.long_report {name : List Char} (follows : Follows (d, p) (e, q))
    (report : IsReport name) (taken : d.long p name = .ok s) : Follows s (e, q) := by
  obtain ⟨w, reads⟩ := Draft.long_report (d := d) (p := p) report
  rw [reads] at taken
  obtain ⟨d₁, closed, taken⟩ := Except.bind_eq_ok_iff.mp taken
  obtain ⟨d₂, on, done⟩ := Except.map_eq_ok_iff.mp taken
  subst done
  exact .behind ((turnOn_report on).2 ▸ follows.close closed)

theorem Follows.long {name : List Char} (follows : Follows (d, p) (e, q))
    (other : ¬ IsReport name) (taken : d.long p name = .ok s) :
    e.long q name = .ok (s.1.plain, s.2) := by
  cases split : Text.splitFirst? '=' name with
  | some parts =>
    obtain ⟨key, text⟩ := parts
    simp only [Draft.long, split] at taken ⊢
    cases found : CommandOption.longNames.find? fun o => o.1 == String.ofList key with
    | none => simp [found] at taken
    | some entry =>
      obtain ⟨word, option⟩ := entry
      cases option with
      | value o =>
        simp only [found] at taken ⊢
        exact follows.take taken
      | switch w => simp [found] at taken
  | none =>
    simp only [Draft.long, split] at taken ⊢
    cases found : CommandOption.longNames.find? fun o => o.1 == String.ofList name with
    | none => simp [found] at taken
    | some entry =>
      obtain ⟨word, option⟩ := entry
      cases option with
      | value o =>
        simp only [found] at taken ⊢
        exact follows.take taken
      | switch w =>
        simp only [found] at taken
        obtain ⟨d₁, _, taken⟩ := Except.bind_eq_ok_iff.mp taken
        obtain ⟨d₂, on, _⟩ := Except.bind_eq_ok_iff.mp taken
        have report := isReport_of_long on (List.mem_of_find?_eq_some found)
        have same := List.find?_some found
        have named : word = String.ofList name := beq_iff_eq.mp same
        rw [named, String.toList_ofList] at report
        exact absurd report other

end

end Draft

/-! ## Reading without the switches -/

/-- Whether a word asks for a report. -/
def asksReport (word : String) : Bool := word == "--validate" || word == "--dry-run"

/-- The words of a command line without those that ask for a report. -/
def withoutReports (words : List String) : List String := words.filter fun word => !asksReport word

section

variable {d e d' : Draft} {p q : Option Open} {words : List String} {args : Arguments}

theorem eq_dashes_iff {word : String} {name other : List Char}
    (chars : word.toList = '-' :: '-' :: name) :
    word = String.ofList ('-' :: '-' :: other) ↔ name = other := by
  rw [← String.toList_inj, chars, String.toList_ofList]
  simp

theorem asksReport_iff {word : String} {name : List Char}
    (chars : word.toList = '-' :: '-' :: name) : asksReport word = true ↔ Draft.IsReport name := by
  have validate : word = "--validate" ↔ name = "validate".toList := eq_dashes_iff chars
  have dryRun : word = "--dry-run" ↔ name = "dry-run".toList := eq_dashes_iff chars
  simp only [asksReport, Bool.or_eq_true, beq_iff_eq, validate, dryRun, Draft.IsReport]

theorem not_asksReport {word : String} (short : ∀ name, word.toList ≠ '-' :: '-' :: name) :
    ¬ asksReport word = true := by
  simp only [asksReport, Bool.or_eq_true, beq_iff_eq]
  rintro (rfl | rfl)
  · exact short _ rfl
  · exact short _ rfl

theorem withoutReports_cons_of_asks {word : String} (report : asksReport word = true)
    (rest : List String) : withoutReports (word :: rest) = withoutReports rest := by
  simp [withoutReports, report]

theorem withoutReports_cons {word : String} (other : ¬ asksReport word = true)
    (rest : List String) : withoutReports (word :: rest) = word :: withoutReports rest := by
  simp [withoutReports, other]

/-- The induction is on the words. Up to a switch both readings stand at the same place; after it
the one without may have an option open that the other has closed, and the next word settles it. -/
theorem Draft.Follows.read (follows : Draft.Follows (d, p) (e, q))
    (read : d.words p words = .ok d') : e.words q (withoutReports words) = .ok d'.plain := by
  induction words generalizing d e p q with
  | nil => exact follows.close read
  | cons word rest ih =>
    unfold Draft.words at read
    split at read
    · next chars =>
      have other : ¬ asksReport word = true := by
        rw [asksReport_iff chars]
        rintro (report | report) <;> cases report
      rw [withoutReports_cons other]
      split at read
      · next last =>
        subst last
        simp [withoutReports, Draft.words, chars, follows.close read]
      · cases read
    · next name _ chars =>
      obtain ⟨⟨d₁, p₁⟩, taken, read⟩ := Except.bind_eq_ok_iff.mp read
      by_cases report : Draft.IsReport name
      · rw [withoutReports_cons_of_asks ((asksReport_iff chars).mpr report)]
        exact ih (follows.long_report report taken) read
      · have later := ih (.same d₁ p₁) read
        rw [withoutReports_cons fun asks => report ((asksReport_iff chars).mp asks)]
        simp [Draft.words, chars, follows.long report taken, later, bind, Except.bind]
    · next c name _ single chars =>
      obtain ⟨⟨d₁, p₁⟩, taken, read⟩ := Except.bind_eq_ok_iff.mp read
      have other : ¬ asksReport word = true := by
        apply not_asksReport
        intro name' spelled
        cases chars.symm.trans spelled
        exact single rfl
      have later := ih (.same d₁ p₁) read
      rw [withoutReports_cons other]
      simp [Draft.words, chars, follows.short taken, later, bind, Except.bind]
    · next notEnd notLong notShort =>
      rw [withoutReports_cons (not_asksReport notLong)]
      split at read
      · next o =>
        cases follows with
        | same =>
          have later := ih (.same d (some ⟨o, some word⟩)) read
          unfold Draft.words
          split
          · next chars => exact absurd chars notEnd
          · next chars => exact absurd chars (notLong _)
          · next chars => exact absurd chars (notShort _ _)
          · exact later
      · cases read

theorem Draft.fromVariable_plain (d : Draft) (o : ValueOption) (missing : Bool)
    (value : Option String) :
    d.plain.fromVariable o missing value = (d.fromVariable o missing value).map Draft.plain := by
  cases value with
  | none => rfl
  | some text =>
    cases missing with
    | false => rfl
    | true => exact Draft.set_plain d o text

/-- Without the switches the same is asked for, apart from a report. -/
theorem parse_withoutReports {environment : String → Option String}
    (parsed : parse environment words = .ok args) :
    parse environment (withoutReports words) =
      .ok { args with validate := false, dryRun := false } := by
  obtain ⟨d₁, read, parsed⟩ := Except.bind_eq_ok_iff.mp parsed
  obtain ⟨d₂, config, parsed⟩ := Except.bind_eq_ok_iff.mp parsed
  obtain ⟨d₃, logLevel, done⟩ := Except.bind_eq_ok_iff.mp parsed
  cases done
  have start : Draft.Follows ({}, none) ({}, none) := .same {} none
  have read' := start.read read
  have config' := Draft.fromVariable_plain d₁ .config d₁.config.isNone
    (environment configVariable)
  have logLevel' := Draft.fromVariable_plain d₂ .logLevel d₂.logLevel.isNone
    (environment logLevelVariable)
  rw [config] at config'
  rw [logLevel] at logLevel'
  simp only [parse, read', bind, Except.bind]
  rw [show d₁.plain.config = d₁.config from rfl, config']
  simp only [Except.map]
  rw [show d₂.plain.logLevel = d₂.logLevel from rfl, logLevel']
  rfl

end

end Arguments

end BeanMeter
