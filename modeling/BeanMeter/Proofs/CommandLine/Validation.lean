import BeanMeter.CommandLine.Program
import BeanMeter.Proofs.CommandLine.Switches

/-! # What a validation says about a run

A validation settles everything that a run settles before it serves the exposition, and stops there.
Where the exposition is served is looked at later, by the run only.

* `Startup.Settled` — what a validation and a run have both found.
* `ExporterConfig.HasAddress` — what only a run asks for.
* `Program.run_after_validation` — a run with a configuration that was found valid is not refused
  for anything else.
-/

namespace BeanMeter

/-- The exposition can be served at the host: an IP address, or the word for this machine. -/
def ExporterConfig.HasAddress (c : ExporterConfig) : Prop :=
  Text.trim c.prometheusHost = "localhost" ∨
    ∃ ip, IpAddress.parse? (Text.trim c.prometheusHost) = some ip

theorem ExporterConfig.exists_bindAddress_iff {c : ExporterConfig} :
    (∃ address, c.bindAddress = .ok address) ↔ c.HasAddress := by
  have loopback : (IpAddress.parse? "127.0.0.1").isSome := by decide +kernel
  obtain ⟨ip, own⟩ := Option.isSome_iff_exists.mp loopback
  unfold bindAddress HasAddress
  by_cases word : Text.trim c.prometheusHost = "localhost"
  · simp [word, own]
  · cases read : IpAddress.parse? (Text.trim c.prometheusHost) with
    | none => simp [word, read]
    | some ip => simp [word, read]

/-- Everything before the first tick has been settled for some arguments. -/
structure Startup.Settled (around : Surroundings) (args : Arguments) (startup : Startup) :
    Prop where
  configured : configure around args = .ok (startup.config, startup.exporter)
  mapped : mappings around startup.config = .ok startup.registry
  connected : connection around startup.config = .ok startup.connector

namespace Program

section

variable {around : Surroundings} {bind : SocketAddress → Option String} {args : Arguments}
  {startup : Startup}

theorem exitCode_failed (fault : RunFault) : exitCode (.failed fault) ≠ 0 := by
  cases fault with
  | bind => simp [exitCode, RunFault.exitCode]
  | failure f => cases h : f.isStartup <;> simp [exitCode, RunFault.exitCode, h]

theorem exitCode_config (e : ConfigError) : exitCode (.failed (.failure (.config e))) = 3 := rfl

theorem settled_of_validation (validates : args.validate = true)
    (passes : exitCode (beginWith around bind args).1 = 0) :
    ∃ startup : Startup, startup.Settled around args ∧
      (beginWith around bind args).1 =
        .reported (Report.validation startup args.outputFormat) := by
  unfold beginWith at passes ⊢
  cases configured : Startup.configure around args with
  | error f => simp [configured, exitCode_failed] at passes
  | ok settings =>
    obtain ⟨config, exporter⟩ := settings
    cases mapped : Startup.mappings around config with
    | error f => simp [configured, mapped, exitCode_failed] at passes
    | ok registry =>
      cases connected : Startup.connection around config with
      | error f => simp [configured, mapped, connected, exitCode_failed] at passes
      | ok connector =>
        refine ⟨⟨config, exporter, registry, connector⟩, ⟨configured, mapped, connected⟩, ?_⟩
        simp [mapped, connected, validates]

theorem settled_withoutReports (settled : startup.Settled around args) :
    startup.Settled around { args with validate := false, dryRun := false } :=
  ⟨settled.configured, settled.mapped, settled.connected⟩

/-- What is left to a run is to find the address of the exposition, and to bind it. -/
theorem beginWith_of_settled (settled : startup.Settled around args)
    (validates : args.validate = false) (rehearses : args.dryRun = false) :
    (beginWith around bind args).1 = .polls startup ∧
      (startup.exporter = .prometheus → startup.config.exporter.HasAddress) ∨
    (∃ address reason, (beginWith around bind args).1 = .failed (.bind address reason) ∧
      bind address = some reason ∧ startup.config.exporter.bindAddress = .ok address) ∨
    ∃ e, (beginWith around bind args).1 = .failed (.failure (.config e)) ∧
      startup.exporter = .prometheus ∧ ¬ startup.config.exporter.HasAddress := by
  obtain ⟨config, exporter, registry, connector⟩ := startup
  obtain ⟨configured, mapped, connected⟩ := settled
  dsimp only at configured mapped connected
  cases exporter with
  | logging =>
    left
    simp [beginWith, configured, mapped, connected, validates, rehearses]
  | prometheus =>
    have served := config.exporter.exists_bindAddress_iff
    cases found : config.exporter.bindAddress with
    | error e =>
      have nowhere : ¬ config.exporter.HasAddress := by simpa [found] using served
      right; right
      exact ⟨e, by simp [beginWith, configured, mapped, connected, validates, rehearses, found],
        rfl, nowhere⟩
    | ok address =>
      cases bound : bind address with
      | some reason =>
        right; left
        refine ⟨address, reason, ?_, bound, rfl⟩
        simp [beginWith, configured, mapped, connected, validates, rehearses, found, bound]
      | none =>
        left
        refine ⟨?_, fun _ => served.mp ⟨address, found⟩⟩
        simp [beginWith, configured, mapped, connected, validates, rehearses, found, bound]

end

/-- A run with a configuration that was found valid fails to start for one reason only: there is no
address in the host where the exposition is to be served. Apart from that it polls, unless the
operating system does not let it have the address. -/
theorem run_after_validation {around : Surroundings} {bind : SocketAddress → Option String}
    {words : List String} {args : Arguments}
    (parsed : Arguments.parse around.environment words = .ok args)
    (validates : args.validate = true) (passes : exitCode (begin around bind words).1 = 0) :
    ∃ startup : Startup, startup.Settled around args ∧
      (begin around bind words).1 = .reported (Report.validation startup args.outputFormat) ∧
      (exitCode (begin around bind (Arguments.withoutReports words)).1 = 3 ↔
        startup.exporter = .prometheus ∧ ¬ startup.config.exporter.HasAddress) ∧
      (exitCode (begin around bind (Arguments.withoutReports words)).1 ≠ 3 →
        (begin around bind (Arguments.withoutReports words)).1 = .polls startup ∨
        ∃ address reason,
          (begin around bind (Arguments.withoutReports words)).1 =
            .failed (.bind address reason) ∧
          bind address = some reason ∧ startup.config.exporter.bindAddress = .ok address) := by
  have validation : begin around bind words = beginWith around bind args := by
    rw [begin, parsed]
  have run : begin around bind (Arguments.withoutReports words) =
      beginWith around bind { args with validate := false, dryRun := false } := by
    rw [begin, Arguments.parse_withoutReports parsed]
  rw [validation] at passes ⊢
  rw [run]
  obtain ⟨startup, settled, report⟩ := settled_of_validation validates passes
  refine ⟨startup, settled, report, ?_⟩
  rcases beginWith_of_settled (settled_withoutReports settled) rfl rfl with
    ⟨polls, address⟩ | ⟨address, reason, failed, bound, found⟩ | ⟨e, failed, fault⟩
  · rw [polls]
    refine ⟨?_, fun _ => .inl rfl⟩
    simpa [exitCode] using address
  · rw [failed]
    refine ⟨?_, fun _ => .inr ⟨address, reason, rfl, bound, found⟩⟩
    have served := startup.config.exporter.exists_bindAddress_iff.mp ⟨address, found⟩
    simp [exitCode, RunFault.exitCode, served]
  · rw [failed, exitCode_config]
    exact ⟨iff_of_true rfl fault, fun other => absurd rfl other⟩

namespace Sample

/-- The custom catalog is a document without rules. -/
def around : Surroundings :=
  ⟨.ofList [("r", .ok ("rules: []".toList.map fun c => UInt8.ofNat c.toNat))], [], fun _ => none⟩

def words (host : String) : List String :=
  ["-Dotel.jmx.service.url=h:1", "-Dotel.jmx.custom.jmx.scraping.config=r",
    "-Dotel.metrics.exporter=prometheus", "-Dotel.exporter.prometheus.host=" ++ host, "--validate"]

def args (host : String) : Arguments where
  config := none
  properties := [("otel.jmx.service.url", "h:1"), ("otel.jmx.custom.jmx.scraping.config", "r"),
    ("otel.metrics.exporter", "prometheus"), ("otel.exporter.prometheus.host", host)]
  validate := true
  dryRun := false
  logLevel := .info
  logFormat := .text
  outputFormat := .text

def free : SocketAddress → Option String := fun _ => none

end Sample

theorem sample_validation :
    Arguments.parse Sample.around.environment (Sample.words "::") = .ok (Sample.args "::") ∧
      exitCode (begin Sample.around Sample.free (Sample.words "::")).1 = 0 ∧
      ∃ startup,
        (begin Sample.around Sample.free (Arguments.withoutReports (Sample.words "::"))).1 =
          .polls startup := by
  have parsed : Arguments.parse Sample.around.environment (Sample.words "::") =
      .ok (Sample.args "::") := rfl
  have passes : exitCode (begin Sample.around Sample.free (Sample.words "::")).1 = 0 := by
    decide +kernel
  obtain ⟨startup, settled, _, fails, polls⟩ := run_after_validation parsed rfl passes
  have starts : exitCode
      (begin Sample.around Sample.free (Arguments.withoutReports (Sample.words "::"))).1 ≠ 3 := by
    decide +kernel
  rcases polls starts with polls | ⟨_, _, _, bound, _⟩
  · exact ⟨parsed, passes, startup, polls⟩
  · cases bound

/-- A configuration is found valid, and the run with it is refused. -/
theorem sample_validation_misleads :
    exitCode (begin Sample.around Sample.free (Sample.words "x")).1 = 0 ∧
      exitCode (begin Sample.around Sample.free (Arguments.withoutReports (Sample.words "x"))).1 =
        3 := by
  decide +kernel

end Program

end BeanMeter
