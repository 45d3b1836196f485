import BeanMeter.CommandLine.Program
import BeanMeter.Proofs.Agent.CertificateFiles
import BeanMeter.Proofs.Outcome

/-! # Certificates that cannot be used

The settings of requests are made once before the first tick, so that a certificate that cannot be
used ends the run there. How the run ends depends on how far the certificate was looked at: a file
that cannot be read is an error of its own, while one that can be read and not decoded counts as
any other trouble with the settings.

* `ClientLibrary.DecodesLate` — what is known of the library that makes the settings.
* `Connector.preflight_eq_error_iff` — when the settings cannot be made, and what the error is.
* `Program.GetsTo` — runs in which nothing was wrong before the settings are made.
* `Program.preflight_failure` — how such runs end.
-/

namespace BeanMeter

/-- A library that does not decode a certificate file when it is handed over, but has to when the
settings are made from it. What else it refuses then is left open. -/
structure ClientLibrary.DecodesLate (library : ClientLibrary) : Prop where
  takes : ∀ bytes, library.refusal? bytes = none
  refuses : ∀ {bytes}, Pem.Spoiled bytes → library.builds .encrypted (some bytes) = false

theorem ClientLibrary.standard_decodesLate : standard.DecodesLate where
  takes _ := rfl
  refuses spoiled := spoiled.not_isReadable

/-- What is wrong with the certificate at a path: its file is not there to be read, or the settings
cannot be made with it. -/
inductive Connector.CertificateFault (c : Connector) (files : Files) (library : ClientLibrary)
    (path : String) : ConnectionError → Prop where
  | unread {fault : FileFault} (read : files.read path = .error fault) :
    CertificateFault c files library path (.certificate path fault.message)
  | unusable {bytes : List UInt8} (read : files.read path = .ok bytes)
    (refused : library.builds .encrypted (some bytes) = false) :
    CertificateFault c files library path (.setup c.endpoint.name)

namespace Connector

variable {c : Connector} {files : Files} {library : ClientLibrary} {path : String}
  {e : ConnectionError}

/-- With a certificate for an encrypted transport, the certificate is what the settings depend
on. -/
theorem preflight_eq_error_iff (takes : ∀ bytes, library.refusal? bytes = none)
    (encrypted : c.endpoint.transport = .encrypted) (named : c.caCertificate = some path) :
    c.preflight files library = .error e ↔ c.CertificateFault files library path e := by
  unfold preflight trusted
  rw [encrypted, named]
  constructor
  · intro fails
    cases read : files.read path with
    | error fault =>
      simp only [read] at fails
      cases fails
      exact .unread read
    | ok bytes =>
      simp only [read, takes] at fails
      split at fails
      · cases fails
      · next refused =>
        cases fails
        exact .unusable read (Bool.eq_false_iff.mpr refused)
  · intro fault
    cases fault with
    | unread read => simp [read]
    | unusable read refused => simp [read, takes, refused]

end Connector

theorem ConnectionError.isFatal_iff_unread {c : Connector} {files : Files}
    {library : ClientLibrary} {path : String} {e : ConnectionError}
    (fault : c.CertificateFault files library path e) :
    e.isFatal = true ↔ ∃ reason, files.read path = .error reason := by
  cases fault with
  | unread read => simp [isFatal, read]
  | unusable read => simp [isFatal, read]

theorem Startup.connection_of_preflight_error {around : Surroundings} {libraries : Libraries}
    {config : Config} {c : Connector} {e : ConnectionError}
    (described : Connector.ofConfig config libraries.readUrl = .ok c)
    (fails : c.preflight around.files libraries.client = .error e) :
    connection around config libraries = .error (.connection e) := by
  rw [connection, described]
  simp only [bind, Except.bind, Except.mapError_ok, Except.mapError_error, fails]

namespace Program

/-- A run makes the settings of a connector: up to there nothing was wrong. -/
def GetsTo (c : Connector) (around : Surroundings) (words : List String) (libraries : Libraries) :
    Prop :=
  ∃ args config exporter registry,
    Arguments.parse around.environment words = .ok args ∧
      Startup.configure around args = .ok (config, exporter) ∧
      Startup.mappings around config = .ok registry ∧
      Connector.ofConfig config libraries.readUrl = .ok c

section

variable {libraries : Libraries} {c : Connector} {e : ConnectionError}

theorem begin_of_preflight_error {around : Surroundings} {words : List String}
    (reached : GetsTo c around words libraries)
    (fails : c.preflight around.files libraries.client = .error e)
    (bind : SocketAddress → Option String) :
    begin around bind words libraries =
      (.failed (.failure (.connection e)), [.starting, .loadedMappings]) := by
  obtain ⟨args, config, exporter, registry, parsed, configured, mapped, described⟩ := reached
  have refused := Startup.connection_of_preflight_error described fails
  simp only [begin, parsed, beginWith, configured, mapped, refused]

/-- With a certificate for an encrypted transport, what is wrong with the certificate is all that can
be in the way of the settings, and with a section that is not base 64 they cannot be made. The
program must not start with a certificate that cannot be read, and fails with 3 whether it was to
report or to poll. One that can be read but not used it takes for something that may pass. -/
theorem preflight_failure (late : libraries.client.DecodesLate) {files : Files} {path : String}
    (encrypted : c.endpoint.transport = .encrypted) (named : c.caCertificate = some path) :
    (∀ e, c.preflight files libraries.client = .error e ↔
      c.CertificateFault files libraries.client path e) ∧
    (∀ bytes, files.read path = .ok bytes → Pem.Spoiled bytes →
      c.preflight files libraries.client = .error (.setup c.endpoint.name)) ∧
    ∀ e, c.preflight files libraries.client = .error e →
      (e.isFatal = true ↔ ∃ fault, files.read path = .error fault) ∧
      ((Failure.connection e).isStartup = true ↔ ∃ fault, files.read path = .error fault) ∧
      ∀ around bind words, around.files = files → GetsTo c around words libraries →
        (exitCode (begin around bind words libraries).1 = 3 ↔
          ∃ fault, files.read path = .error fault) ∧
        (exitCode (begin around bind words libraries).1 = 1 ↔
          ∃ bytes, files.read path = .ok bytes) := by
  have exact : ∀ e, c.preflight files libraries.client = .error e ↔
      c.CertificateFault files libraries.client path e :=
    fun e => Connector.preflight_eq_error_iff late.takes encrypted named
  refine ⟨exact, fun bytes read spoiled => ?_, fun e fails => ?_⟩
  · exact (exact _).mpr (.unusable read (late.refuses spoiled))
  · have fatal := ConnectionError.isFatal_iff_unread ((exact e).mp fails)
    refine ⟨fatal, fatal, ?_⟩
    rintro around bind words rfl reached
    rw [begin_of_preflight_error reached fails, exitCode, RunFault.exitCode, Failure.isStartup]
    cases read : around.files.read path with
    | error reason => simp [fatal.mpr ⟨reason, read⟩]
    | ok bytes =>
      have passing : e.isFatal = false := by simpa [read] using fatal
      simp [passing]

end

namespace Certificate

/-- A certificate file whose only section holds something else than base 64. -/
def spoiled : List UInt8 :=
  "-----BEGIN CERTIFICATE-----\n!\n-----END CERTIFICATE-----\n".toList.map fun c =>
    UInt8.ofNat c.toNat

def around (file : Except FileFault (List UInt8)) : Surroundings :=
  ⟨.ofList [("r", .ok ("rules: []".toList.map fun c => UInt8.ofNat c.toNat)), ("ca", file)],
    [], fun _ => none⟩

def missing : Surroundings := around (.error .missing)

def words : List String :=
  ["-Dotel.jmx.service.url=https://h:1", "-Dotel.jmx.custom.jmx.scraping.config=r",
    "-Dotel.jmx.remote.tls.ca.certificate=ca", "--validate"]

def args : Arguments where
  config := none
  properties := [("otel.jmx.service.url", "https://h:1"),
    ("otel.jmx.custom.jmx.scraping.config", "r"), ("otel.jmx.remote.tls.ca.certificate", "ca")]
  validate := true
  dryRun := false
  logLevel := .info
  logFormat := .text
  outputFormat := .text

def config : Config where
  serviceUrl := "https://h:1"
  targetSystems := []
  customCatalog := some "r"
  intervalMs := 10000
  exporter := ⟨"logging", none, "0.0.0.0", 9464⟩
  connection := ⟨none, none, none, none, false, 5000, some "ca"⟩

def connector : Connector where
  endpoint := ⟨⟨"h", 1, "/jolokia", true⟩, none, none, none, none, false⟩
  callTimeoutMs := 5000
  caCertificate := some "ca"

def free : SocketAddress → Option String := fun _ => none

end Certificate

theorem sample_preflight_failure : Libraries.standard.client.DecodesLate ∧
      Certificate.connector.preflight Certificate.missing.files =
        .error (.certificate "ca" FileFault.missing.message) ∧
      GetsTo Certificate.connector Certificate.missing Certificate.words .standard ∧
      exitCode (begin Certificate.missing Certificate.free Certificate.words).1 = 3 := by
  have late : Libraries.standard.client.DecodesLate := ClientLibrary.standard_decodesLate
  have encrypted : Certificate.connector.endpoint.transport = .encrypted := rfl
  have named : Certificate.connector.caCertificate = some "ca" := rfl
  have unread : Certificate.missing.files.read "ca" = .error .missing := rfl
  obtain ⟨exact, -, counts⟩ := preflight_failure late encrypted named
  have fails := (exact _).mpr (.unread unread)
  have loads : (Startup.mappings Certificate.missing Certificate.config).toOption.isSome := by
    decide +kernel
  obtain ⟨registry, mapped⟩ := Option.isSome_iff_exists.mp loads
  have configured : (Startup.configure Certificate.missing Certificate.args).toOption =
    some (Certificate.config, .logging) := by decide +kernel
  have described : (Connector.ofConfig Certificate.config).toOption =
    some Certificate.connector := by decide +kernel
  have reached : GetsTo Certificate.connector Certificate.missing Certificate.words .standard :=
    ⟨Certificate.args, Certificate.config, .logging, registry, rfl,
      Except.toOption_eq_some_iff.mp configured, Except.toOption_eq_some_iff.mp mapped,
      Except.toOption_eq_some_iff.mp described⟩
  obtain ⟨-, -, ends⟩ := counts _ fails
  exact ⟨late, fails, reached, (ends _ _ _ rfl reached).1.mpr ⟨.missing, unread⟩⟩

/-- A certificate that nothing can be made of is taken for trouble that may pass. -/
theorem sample_certificate_not_startup :
    Certificate.connector.preflight (Certificate.around (.ok Certificate.spoiled)).files =
        .error (.setup "h:1") ∧
      (ConnectionError.setup "h:1").isFatal = false ∧
      (Failure.connection (.setup "h:1")).isStartup = false ∧
      exitCode (begin (Certificate.around (.ok Certificate.spoiled)) Certificate.free
        Certificate.words).1 = 1 := by
  have name : Certificate.connector.endpoint.name = "h:1" := by decide +kernel
  have refused : ClientLibrary.standard.builds .encrypted (some Certificate.spoiled) = false := by
    decide +kernel
  refine ⟨?_, rfl, rfl, by decide +kernel⟩
  rw [← name]
  exact (Connector.preflight_eq_error_iff ClientLibrary.standard_decodesLate.takes rfl rfl).mpr
    (.unusable rfl refused)

end Program

end BeanMeter
