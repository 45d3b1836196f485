import BeanMeter.Proofs.Config.Listing
import BeanMeter.Proofs.Outcome

/-! # Rules of a configuration

The rules that a raw configuration has to keep, each with what it means to break it and with the
error that is reported then, and what a configuration is like that keeps them all.

* `RawConfig.Rule`, `RawConfig.Breaks`, `RawConfig.errorOf` — the rules.
* `RawConfig.validate_map_decided` — validation is to apply them in order.
* `RawConfig.validate_exact` — the first broken rule is reported, and a configuration that breaks
  none is accepted.
-/

namespace BeanMeter

/-- What a configuration has from the fields that the rules are about, other than a copy. -/
def Config.decided (c : Config) : List String × Nat × Nat :=
  (c.targetSystems, c.intervalMs, c.connection.callTimeoutMs)

namespace RawConfig

variable {raw : RawConfig} {items : List String}

/-! ## The rules -/

/-- The rules. -/
inductive Rule where
  | serviceUrl
  | source
  | targets
  | endpoint
  | interval
  | callTimeout
  deriving DecidableEq, Repr

/-- All rules in the order in which they are applied. -/
def Rule.order : List Rule := [.serviceUrl, .source, .targets, .endpoint, .interval, .callTimeout]

/-- An optional value that is absent or has nothing but blanks. -/
def Blank (value : Option String) : Prop :=
  ∀ text, value = some text → ∀ c ∈ text.toList, Text.isBlank c = true

/-- What it means for a raw configuration that lists some target systems to break a rule. -/
def Breaks (raw : RawConfig) (items : List String) : Rule → Prop
  | .serviceUrl => Blank raw.serviceUrl
  | .source => Blank raw.customCatalog ∧ raw.targetSystem = ""
  | .targets => ∃ system ∈ items, system ∉ availableTargets
  | .endpoint => Text.equalIgnoringCase raw.exporter "otlp" = true ∧ Blank raw.otlpEndpoint
  | .interval => raw.intervalMs < 0
  | .callTimeout => raw.callTimeoutMs < 0

/-- The error about a broken rule, given the target systems without a catalog. -/
def errorOf (unknown : List String) : Rule → ConfigError
  | .serviceUrl => .missing Key.serviceUrl
  | .source => .missing (Key.customCatalog ++ " or " ++ Key.targetSystem)
  | .targets => .unknownTargets unknown availableTargets
  | .endpoint => .invalid Key.otlpEndpoint "must be specified for otlp format."
  | .interval => .invalid Key.interval "must be positive."
  | .callTimeout => .invalid Key.callTimeout "must be positive."

/-- A rule is broken, and none before it. -/
def FirstBroken (raw : RawConfig) (items : List String) (rule : Rule) : Prop :=
  raw.Breaks items rule ∧ ∃ before after, Rule.order = before ++ rule :: after ∧
    ∀ earlier ∈ before, ¬ raw.Breaks items earlier

/-- A duration in milliseconds, where zero stands for the default. -/
def durationOf (value : Int) (default : Nat) : Nat := if value = 0 then default else value.toNat

/-- What holds of a configuration that breaks no rule. -/
structure Accepted (raw : RawConfig) (items : List String) (c : Config) : Prop where
  targets : FirstOccurrences items c.targetSystems
  once : c.targetSystems.Nodup
  interval : (c.intervalMs : Int) = if raw.intervalMs = 0 then 10000 else raw.intervalMs
  callTimeout : (c.connection.callTimeoutMs : Int) =
    if raw.callTimeoutMs = 0 then 5000 else raw.callTimeoutMs
  positive : 1 ≤ c.intervalMs ∧ 1 ≤ c.connection.callTimeoutMs

/-- The fields that the rules are about. -/
def ruled (raw : RawConfig) :
    Option String × Option String × String × String × Option String × Int × Int :=
  (raw.serviceUrl, raw.customCatalog, raw.targetSystem, raw.exporter, raw.otlpEndpoint,
    raw.intervalMs, raw.callTimeoutMs)

/-! ## Applying rules in order -/

theorem Rule.mem_order (rule : Rule) : rule ∈ order := by
  cases rule <;> simp [order]

theorem duration_of_not_neg {value : Int} {default : Nat} (given : ¬ value < 0)
    (some : 1 ≤ default) : (durationOf value default : Int) =
      (if value = 0 then (default : Int) else value) ∧ 1 ≤ durationOf value default := by
  unfold durationOf
  split <;> omega

theorem reject_eq_of_iff {p q : Prop} [Decidable p] [Decidable q] (same : p ↔ q) {e : ConfigError} :
    reject p e = reject q e := by
  simp only [reject, same]

theorem checkedMillis_bind {α : Type} {key : String} {value : Int} {default : Nat}
    {next : Nat → Except ConfigError α} : checkedMillis key value default >>= next =
      reject (value < 0) (.invalid key "must be positive.") >>= fun _ =>
        next (durationOf value default) := by
  unfold checkedMillis reject durationOf
  split
  · rfl
  · split <;> rfl

theorem forM_cons_bind {α : Type} {rule : Rule} {rules : List Rule}
    {apply : Rule → Except ConfigError Unit} {next : Unit → Except ConfigError α} :
    (rule :: rules).forM apply >>= next = apply rule >>= fun _ => rules.forM apply >>= next :=
  bind_assoc ..

section

variable {rules : List Rule} {P : Rule → Prop} [DecidablePred P] {error : Rule → ConfigError}

/-- The first one that is broken decides. -/
theorem forM_reject_eq : (rules.forM fun rule => reject (P rule) (error rule)) =
    match rules.find? fun rule => P rule with
    | none => .ok ()
    | some rule => .error (error rule) := by
  induction rules with
  | nil => rfl
  | cons rule rules ih =>
    change (reject (P rule) (error rule) >>= fun _ => rules.forM _) = _
    by_cases broken : P rule
    · rw [List.find?_cons_of_pos (by simpa using broken), reject, if_pos broken]
      rfl
    · rw [List.find?_cons_of_neg (by simpa using broken), ← ih, reject, if_neg broken]
      rfl

theorem forM_reject_eq_ok_iff :
    (rules.forM fun rule => reject (P rule) (error rule)) = .ok () ↔ ∀ rule ∈ rules, ¬ P rule := by
  rw [forM_reject_eq]
  cases found : rules.find? fun rule => P rule with
  | none => simpa using found
  | some rule =>
    have broken : P rule := by simpa using List.find?_some found
    simpa using ⟨rule, List.mem_of_find?_eq_some found, broken⟩

theorem forM_reject_eq_error_iff {e : ConfigError} :
    (rules.forM fun rule => reject (P rule) (error rule)) = .error e ↔
      ∃ rule, (P rule ∧ ∃ before after, rules = before ++ rule :: after ∧
        ∀ earlier ∈ before, ¬ P earlier) ∧ e = error rule := by
  have first : ∀ rule, (rules.find? fun rule => P rule) = some rule ↔
      P rule ∧ ∃ before after, rules = before ++ rule :: after ∧
        ∀ earlier ∈ before, ¬ P earlier := by
    intro rule
    rw [List.find?_eq_some_iff_append]
    simp
  simp only [forM_reject_eq, ← first]
  cases rules.find? fun rule => P rule <;> simp [eq_comm]

end

/-! ## Raw configurations -/

theorem isUnset_iff {value : Option String} : isUnset value = true ↔ Blank value := by
  cases value <;> simp [isUnset, Blank, Text.isBlankText]

section

variable (listed : Items raw.targetSystem items)
include listed

theorem firstOccurrences_unknownTargets :
    FirstOccurrences (items.filter (· ∉ availableTargets)) raw.unknownTargets := by
  have unknown := (firstOccurrences_targetList listed).filter (· ∉ availableTargets)
  simpa [unknownTargets] using unknown

theorem unknownTargets_ne_nil_iff :
    raw.unknownTargets ≠ [] ↔ ∃ system ∈ items, system ∉ availableTargets := by
  have members : ∀ system, system ∈ raw.unknownTargets ↔
      system ∈ items ∧ system ∉ availableTargets := by
    intro system
    rw [(firstOccurrences_unknownTargets listed).members]
    simp
  constructor
  · intro some
    obtain ⟨system, unknown⟩ := List.exists_mem_of_ne_nil _ some
    exact ⟨system, (members system).mp unknown⟩
  · rintro ⟨system, unknown⟩
    exact List.ne_nil_of_mem ((members system).mpr unknown)

open Classical in
/-- Validation is to apply the rules in order. -/
theorem validate_map_decided : raw.validate.map Config.decided =
    (Rule.order.forM fun rule => reject (raw.Breaks items rule)
      (errorOf raw.unknownTargets rule)) >>= fun _ => .ok (targetList raw.targetSystem,
        durationOf raw.intervalMs defaultIntervalMs,
        durationOf raw.callTimeoutMs defaultCallTimeoutMs) := by
  -- Validation tests each rule in its own way; every test amounts to the rule being broken.
  have serviceUrl : isUnset raw.serviceUrl = true ↔ raw.Breaks items .serviceUrl := isUnset_iff
  have source : (isUnset raw.customCatalog = true ∧ raw.targetSystem = "") ↔
      raw.Breaks items .source := and_congr_left' isUnset_iff
  have targets : raw.unknownTargets ≠ [] ↔ raw.Breaks items .targets :=
    unknownTargets_ne_nil_iff listed
  have endpoint : (Text.equalIgnoringCase raw.exporter "otlp" = true ∧
      isUnset raw.otlpEndpoint = true) ↔ raw.Breaks items .endpoint := and_congr_right' isUnset_iff
  have interval : raw.intervalMs < 0 ↔ raw.Breaks items .interval := Iff.rfl
  have callTimeout : raw.callTimeoutMs < 0 ↔ raw.Breaks items .callTimeout := Iff.rfl
  simp only [validate, Except.map_bind, checkedMillis_bind]
  rw [reject_eq_of_iff serviceUrl, reject_eq_of_iff source, reject_eq_of_iff targets,
    reject_eq_of_iff endpoint, reject_eq_of_iff interval, reject_eq_of_iff callTimeout]
  simp only [Rule.order, forM_cons_bind]
  rfl

theorem validate_eq_error_iff {e : ConfigError} : raw.validate = .error e ↔
    ∃ rule, raw.FirstBroken items rule ∧ e = errorOf raw.unknownTargets rule := by
  classical
  rw [← Except.map_eq_error_iff, validate_map_decided listed]
  refine Iff.trans ?_ forM_reject_eq_error_iff
  exact Except.bind_eq_error_iff.trans (by simp)

theorem of_validate_eq_ok {c : Config} (valid : raw.validate = .ok c) :
    (∀ rule, ¬ raw.Breaks items rule) ∧ c.decided = (targetList raw.targetSystem,
      durationOf raw.intervalMs defaultIntervalMs,
      durationOf raw.callTimeoutMs defaultCallTimeoutMs) := by
  classical
  have decided := validate_map_decided listed
  rw [valid] at decided
  obtain ⟨_, kept, same⟩ := Except.bind_eq_ok_iff.mp decided.symm
  exact ⟨fun rule => forM_reject_eq_ok_iff.mp kept rule rule.mem_order,
    (Except.ok.inj same).symm⟩

theorem exists_validate_eq_ok_iff :
    (∃ c, raw.validate = .ok c) ↔ ∀ rule, ¬ raw.Breaks items rule := by
  constructor
  · rintro ⟨c, valid⟩
    exact (of_validate_eq_ok listed valid).1
  · intro kept
    cases outcome : raw.validate with
    | ok c => exact ⟨c, rfl⟩
    | error e =>
      obtain ⟨rule, ⟨broken, -⟩, -⟩ := (validate_eq_error_iff listed).mp outcome
      exact absurd broken (kept rule)

theorem accepted_of_validate {c : Config} (valid : raw.validate = .ok c) :
    raw.Accepted items c := by
  obtain ⟨kept, decided⟩ := of_validate_eq_ok listed valid
  have interval := duration_of_not_neg (kept .interval) (by decide : 1 ≤ defaultIntervalMs)
  have callTimeout := duration_of_not_neg (kept .callTimeout) (by decide : 1 ≤ defaultCallTimeoutMs)
  simp only [Config.decided, Prod.mk.injEq] at decided
  obtain ⟨targets, intervalMs, callTimeoutMs⟩ := decided
  rw [← intervalMs] at interval
  rw [← callTimeoutMs] at callTimeout
  have first : FirstOccurrences items c.targetSystems :=
    targets ▸ firstOccurrences_targetList listed
  exact ⟨first, first.nodup, interval.1, callTimeout.1, interval.2, callTimeout.2⟩

end

theorem validate_congr {other : RawConfig} (same : other.ruled = raw.ruled) :
    other.validate.map Config.decided = raw.validate.map Config.decided := by
  cases raw
  cases other
  simp only [ruled, Prod.mk.injEq] at same
  obtain ⟨rfl, rfl, rfl, rfl, rfl, rfl, rfl⟩ := same
  simp only [validate, Except.map_bind]
  rfl

/-- The error about the first broken rule is the outcome, or a configuration if there is none. Only
the fields that the rules are about matter for it. -/
theorem validate_exact (raw : RawConfig) :
    ∃ items unknown, Items raw.targetSystem items ∧
      FirstOccurrences (items.filter (· ∉ availableTargets)) unknown ∧
      (∀ e, raw.validate = .error e ↔
        ∃ rule, raw.FirstBroken items rule ∧ e = errorOf unknown rule) ∧
      ((∃ c, raw.validate = .ok c) ↔ ∀ rule, ¬ raw.Breaks items rule) ∧
      (∀ c, raw.validate = .ok c → raw.Accepted items c) ∧
      ∀ other : RawConfig, other.ruled = raw.ruled →
        other.validate.map Config.decided = raw.validate.map Config.decided := by
  have listed := items_iff.mpr (rfl : _ = (Text.splitString ',' raw.targetSystem |>.map Text.trim
    |>.filter (· ≠ "")))
  exact ⟨_, raw.unknownTargets, listed, firstOccurrences_unknownTargets listed,
    fun e => validate_eq_error_iff listed, exists_validate_eq_ok_iff listed,
    fun c => accepted_of_validate listed, fun other => validate_congr⟩

end RawConfig

end BeanMeter
