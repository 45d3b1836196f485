import BeanMeter.Proofs.Agent.Opening

/-! # Answers to challenges

What comes of a challenge depends on its scheme and on the configured identity. A realm is asked
for and answered too, but whichever is configured or offered, the outcome is the same.

* `Challenge.schemeIn` — the scheme that a header asks for, said without its parameters.
* `Connector.challenge_outcome` — the three outcomes, and what they do not depend on.
-/

namespace BeanMeter

/-! ## Schemes -/

namespace Challenge

/-- What stands before the first space of a header, once the blanks around it are gone; a refusal
without a header counts as one that asks for the basic scheme. -/
def schemeIn : Option String → String
  | none => "Basic"
  | some header => String.ofList ((Text.trimChars header.toList).takeWhile (· ≠ ' '))

/-- The one scheme that can be answered, in whatever case its letters are. -/
def BasicScheme (scheme : String) : Prop := scheme.toLower = "basic"

instance (scheme : String) : Decidable (BasicScheme scheme) :=
  inferInstanceAs (Decidable (scheme.toLower = "basic"))

/-- A text up to the first separator, or the whole text if there is none. -/
theorem takeWhile_of_splitFirst? {sep : Char} (cs : List Char) :
    ((Text.splitFirst? sep cs).getD (cs, [])).1 = cs.takeWhile (· ≠ sep) := by
  have passed {before : List Char} (clear : sep ∉ before) :
      ∀ c ∈ before, decide (c ≠ sep) = true := by
    intro c member
    simpa using ne_of_mem_of_not_mem member clear
  cases halves : Text.splitFirst? sep cs with
  | none =>
    have whole := @List.takeWhile_append_of_pos _ _ cs []
      (passed (Text.splitFirst?_eq_none_iff.mp halves))
    simpa using whole.symm
  | some parts =>
    obtain ⟨before, after⟩ := parts
    obtain ⟨rfl, clear⟩ := Text.splitFirst?_eq_some_iff.mp halves
    rw [Option.getD_some, List.takeWhile_append_of_pos (passed clear)]
    simp

theorem scheme_parse (challenge : Option String) :
    (parse (challenge.getD "Basic")).scheme = schemeIn challenge := by
  cases challenge with
  | none => decide +kernel
  | some header =>
    rw [schemeIn, ← takeWhile_of_splitFirst?]
    rfl

theorem isBasic_iff {c : Challenge} : c.isBasic = true ↔ BasicScheme c.scheme := by
  have lower : "basic".toList.map Char.toLower = "basic".toList := by decide
  have lowered : c.scheme.toLower.toList = c.scheme.toList.map Char.toLower := String.toList_map
  rw [isBasic, Text.equalIgnoringCase, beq_iff_eq, lower, BasicScheme, ← String.toList_inj, lowered]

end Challenge

/-! ## Outcomes -/

namespace Connector

/-- A challenge of another scheme is refused by its name. One of the basic scheme is answered by the
configured user name and password if both are there, and otherwise it is as if they had been wrong.
Nothing but the scheme of the header matters, and nothing but these two of the handler. -/
theorem challenge_outcome (endpoint : String) (handler : CallbackHandler)
    (challenge : Option String) :
    let scheme := Challenge.schemeIn challenge
    let outcome := answerChallenge endpoint handler challenge
    (∀ callback, outcome = .error (.unsupportedCallback endpoint callback) ↔
      ¬ Challenge.BasicScheme scheme ∧ callback = scheme ++ " challenge") ∧
    (∀ credentials, outcome = .ok credentials ↔ Challenge.BasicScheme scheme ∧
      handler.username = some credentials.username ∧
      handler.password = some credentials.password) ∧
    (outcome = .error (.authenticationFailed endpoint) ↔ Challenge.BasicScheme scheme ∧
      (handler.username = none ∨ handler.password = none)) ∧
    ∀ realm other, Challenge.schemeIn other = scheme →
      answerChallenge endpoint { handler with realm := realm } other = outcome := by
  intro scheme outcome
  have own : outcome = _ := answerChallenge_eq endpoint handler challenge
  have asked : (Challenge.parse (challenge.getD "Basic")).isBasic = true ↔
      Challenge.BasicScheme scheme := by
    rw [Challenge.isBasic_iff, Challenge.scheme_parse]
  rw [Challenge.scheme_parse] at own
  have unmoved : ∀ realm other, Challenge.schemeIn other = scheme →
      answerChallenge endpoint { handler with realm := realm } other = outcome := by
    intro realm other same
    change Challenge.schemeIn other = Challenge.schemeIn challenge at same
    rw [own, answerChallenge_eq, Challenge.isBasic, Challenge.isBasic, Challenge.scheme_parse,
      Challenge.scheme_parse, same]
  by_cases basic : Challenge.BasicScheme scheme
  · rw [if_pos (asked.mpr basic)] at own
    -- The identity is there in full or it is not.
    refine ⟨fun callback => ?_, fun ⟨username, password⟩ => ?_, ?_, unmoved⟩
    · rcases handler with ⟨_ | _, _ | _, _⟩ <;> simp [own, basic]
    · rcases handler with ⟨_ | _, _ | _, _⟩ <;> simp [own, basic]
    · rcases handler with ⟨_ | _, _ | _, _⟩ <;> simp [own, basic]
  · rw [if_neg (mt asked.mp basic)] at own
    refine ⟨fun callback => ?_, ?_, ?_, unmoved⟩
    · simp [own, basic, eq_comm, scheme]
    · simp [own, basic]
    · simp [own, basic]

namespace Sample

def identity (realm : Option String) : CallbackHandler := ⟨some "scraper", some "secret", realm⟩

end Sample

/-- Neither the realm that is offered nor the configured one changes what is sent. -/
theorem sample_challenge_outcome :
    Challenge.schemeIn (some "BASIC realm=\"a b\", charset=UTF-8") = "BASIC" ∧
      answerChallenge "h:1" (Sample.identity (some "corp")) (some "BASIC  realm=other") =
        .ok ⟨"scraper", "secret"⟩ := by
  have scheme : Challenge.schemeIn (some "BASIC realm=\"a b\", charset=UTF-8") = "BASIC" := by
    decide +kernel
  have other : Challenge.schemeIn (some "BASIC  realm=other") = "BASIC" := by decide +kernel
  have basic : Challenge.BasicScheme "BASIC" := by decide +kernel
  obtain ⟨-, answered, -, unmoved⟩ := challenge_outcome "h:1" (Sample.identity none)
    (some "BASIC realm=\"a b\", charset=UTF-8")
  rw [scheme] at answered unmoved
  have own := (answered ⟨"scraper", "secret"⟩).mpr ⟨basic, rfl, rfl⟩
  exact ⟨scheme, (unmoved (some "corp") _ other).trans own⟩

end Connector

end BeanMeter
