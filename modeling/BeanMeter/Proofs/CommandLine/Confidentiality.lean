import BeanMeter.CommandLine.Program
import BeanMeter.Proofs.Outcome

/-! # The password

A password is handed on from the properties to the configuration and from there to the connector,
and up to the first request nothing looks at it: no rule, no report and no error text. So every step
of a run is followed with the password exchanged, and comes to the same.

* `Config.ofProperties_alike` — the configurations of property sets that differ in the password.
* `Program.AlikeButPassword` — two runs that have the same in front of them but for the password.
* `Program.password_not_shown` — such runs cannot be told apart by what they print.
-/

namespace BeanMeter

/-! ## Configurations -/

def RawConfig.withPassword (raw : RawConfig) (password : Option String) : RawConfig :=
  { raw with password }

def Config.withPassword (c : Config) (password : Option String) : Config :=
  { c with connection := { c.connection with password } }

namespace Config

variable (c : Config) (password : Option String)

@[simp] theorem withPassword_serviceUrl : (c.withPassword password).serviceUrl = c.serviceUrl := rfl

@[simp] theorem withPassword_targetSystems :
    (c.withPassword password).targetSystems = c.targetSystems := rfl

@[simp] theorem withPassword_customCatalog :
    (c.withPassword password).customCatalog = c.customCatalog := rfl

@[simp] theorem withPassword_exporter : (c.withPassword password).exporter = c.exporter := rfl

end Config

/-- Two property sets that differ in the password at most. -/
def PropertySet.AlikeButPassword (p q : PropertySet) : Prop :=
  ∀ key, key ≠ Key.password → q.get? key = p.get? key

section

variable {p q : PropertySet}

theorem RawConfig.ofProperties_alike (alike : p.AlikeButPassword q) :
    ofProperties q = (ofProperties p).map (·.withPassword (q.get? Key.password)) := by
  have values {α : Type} (key : String) (other : key ≠ Key.password) (default : α)
      (form : ValueForm) (read : List Char → Option α) :
      readValue q key default form read = readValue p key default form read := by
    rw [readValue, readValue, alike key other]
  have flag : readFlag q Key.registrySsl = readFlag p Key.registrySsl := by
    rw [readFlag, readFlag, alike Key.registrySsl (by decide)]
  have interval : readInteger q Key.interval defaultIntervalMs =
      readInteger p Key.interval defaultIntervalMs := values _ (by decide) _ _ _
  have port : readPort q Key.prometheusPort defaultPrometheusPort =
      readPort p Key.prometheusPort defaultPrometheusPort := values _ (by decide) _ _ _
  have timeout : readInteger q Key.callTimeout defaultCallTimeoutMs =
      readInteger p Key.callTimeout defaultCallTimeoutMs := values _ (by decide) _ _ _
  unfold ofProperties
  rw [interval, port, flag, timeout]
  simp only [Except.map_bind]
  rw [alike Key.serviceUrl (by decide), alike Key.customCatalog (by decide),
    alike Key.targetSystem (by decide), alike Key.exporter (by decide),
    alike Key.otlpEndpoint (by decide), alike Key.prometheusHost (by decide),
    alike Key.username (by decide), alike Key.remoteProfile (by decide),
    alike Key.realm (by decide), alike Key.caCertificate (by decide)]
  rfl

theorem RawConfig.validate_withPassword (raw : RawConfig) (password : Option String) :
    (raw.withPassword password).validate = raw.validate.map (·.withPassword password) := by
  unfold validate
  simp only [Except.map_bind]
  rfl

theorem Config.ofProperties_alike (alike : p.AlikeButPassword q) :
    ofProperties q = (ofProperties p).map (·.withPassword (q.get? Key.password)) := by
  unfold ofProperties
  rw [RawConfig.ofProperties_alike alike, Except.map_bind]
  cases RawConfig.ofProperties p with
  | error => rfl
  | ok raw => exact raw.validate_withPassword _

end

/-! ## What is settled at the start -/

def Connector.withPassword (c : Connector) (password : Option String) : Connector :=
  { c with endpoint := { c.endpoint with password } }

def Startup.withPassword (s : Startup) (password : Option String) : Startup :=
  { s with
    config := s.config.withPassword password
    connector := s.connector.withPassword password }

/-- The files that a configuration names. -/
def Config.namedFiles (c : Config) : List String :=
  c.customCatalog.toList ++ c.connection.caCertificate.toList

theorem Connector.ofConfig_withPassword (c : Config) (password : Option String)
    (readUrl : UrlReader) :
    ofConfig (c.withPassword password) readUrl =
      (ofConfig c readUrl).map (·.withPassword password) := by
  unfold ofConfig Endpoint.ofConfig
  change ((ServiceAddress.parse c.serviceUrl readUrl).map _).map _ =
    (((ServiceAddress.parse c.serviceUrl readUrl).map _).map _).map _
  cases ServiceAddress.parse c.serviceUrl readUrl <;> rfl

section

variable {c : Connector} {password : Option String} {files files' : Files}
  {library : ClientLibrary}

theorem Connector.trusted_withPassword
    (same : ∀ path ∈ c.caCertificate, files'.read path = files.read path) :
    (c.withPassword password).trusted files' library = c.trusted files library := by
  have transport : (c.withPassword password).endpoint.transport = c.endpoint.transport := rfl
  have certificate : (c.withPassword password).caCertificate = c.caCertificate := rfl
  unfold trusted
  rw [transport, certificate]
  cases c.endpoint.transport with
  | plain => rfl
  | encrypted =>
    cases given : c.caCertificate with
    | none => rfl
    | some path =>
      dsimp only
      rw [same path (by simp [given])]

/-- The settings of requests are made before anybody says who asks. -/
theorem Connector.preflight_withPassword
    (same : ∀ path ∈ c.caCertificate, files'.read path = files.read path) :
    (c.withPassword password).preflight files' library = c.preflight files library := by
  rw [preflight, preflight, trusted_withPassword same]
  rfl

theorem Registry.resolve_congr {targets : List String} {custom : Option String}
    (same : ∀ path ∈ custom, files'.read path = files.read path) :
    resolve files' targets custom = resolve files targets custom := by
  have document : customDocument files' custom = customDocument files custom := by
    cases custom with
    | none => rfl
    | some path =>
      rw [customDocument, customDocument, Files.readText, Files.readText, same path rfl]
  rw [resolve, resolve, document]

end

/-! ## Runs -/

/-- Two runs that have the same in front of them, but for the password in their properties. -/
structure Program.AlikeButPassword (around around' : Surroundings) (args args' : Arguments)
    (p q : PropertySet) : Prop where
  properties : Startup.properties around args = .ok p
  properties' : Startup.properties around' args' = .ok q
  password : p.AlikeButPassword q
  files : ∀ c, Config.ofProperties p = .ok c → ∀ path ∈ c.namedFiles,
    around'.files.read path = around.files.read path
  validate : args'.validate = args.validate
  dryRun : args'.dryRun = args.dryRun
  outputFormat : args'.outputFormat = args.outputFormat

def Beginning.withPassword (b : Beginning) (password : Option String) : Beginning :=
  match b with
  | .polls startup => .polls (startup.withPassword password)
  | b => b

namespace Startup

variable {around around' : Surroundings} {args args' : Arguments} {p q : PropertySet} {c : Config}

theorem configure_eq (loaded : properties around args = .ok p) :
    configure around args = (do
      let c ← (Config.ofProperties p).mapError .config
      let exporter ← (Exporter.ofConfig c.exporter).mapError .config
      .ok (c, exporter)) := by
  rw [configure, loaded]
  rfl

theorem config_of_configure {exporter : Exporter} (loaded : properties around args = .ok p)
    (configured : configure around args = .ok (c, exporter)) : Config.ofProperties p = .ok c := by
  rw [configure_eq loaded] at configured
  obtain ⟨_, checked, configured⟩ := Except.bind_eq_ok_iff.mp configured
  obtain ⟨_, _, same⟩ := Except.bind_eq_ok_iff.mp configured
  cases same
  exact Except.mapError_eq_ok_iff.mp checked

theorem configure_alike (alike : Program.AlikeButPassword around around' args args' p q) :
    configure around' args' = (configure around args).map fun (c, exporter) =>
      (c.withPassword (q.get? Key.password), exporter) := by
  rw [configure_eq alike.properties, configure_eq alike.properties', Except.map_bind,
    Config.ofProperties_alike alike.password]
  cases Config.ofProperties p with
  | error => simp only [Except.map, Except.mapError_error, bind, Except.bind]
  | ok c =>
    simp only [Except.map, Except.mapError_ok, bind, Except.bind, Config.withPassword_exporter]
    cases Exporter.ofConfig c.exporter with
    | error => simp only [Except.mapError_error]
    | ok => simp only [Except.mapError_ok]

theorem mappings_withPassword (password : Option String)
    (same : ∀ path ∈ c.namedFiles, around'.files.read path = around.files.read path) :
    mappings around' (c.withPassword password) = mappings around c := by
  have custom : ∀ path ∈ c.customCatalog, around'.files.read path = around.files.read path :=
    fun path named => same path (List.mem_append_left _ (Option.mem_toList.mpr named))
  rw [mappings, mappings, Config.withPassword_targetSystems, Config.withPassword_customCatalog,
    Registry.resolve_congr custom]

theorem connection_withPassword (password : Option String) (libraries : Libraries)
    (same : ∀ path ∈ c.namedFiles, around'.files.read path = around.files.read path) :
    connection around' (c.withPassword password) libraries =
      (connection around c libraries).map (·.withPassword password) := by
  rw [connection, connection, Connector.ofConfig_withPassword, Except.map_bind]
  cases made : Connector.ofConfig c libraries.readUrl with
  | error => rfl
  | ok connector =>
    have certificate : ∀ path ∈ connector.caCertificate,
        around'.files.read path = around.files.read path := by
      obtain ⟨_, _, rfl⟩ := Except.map_eq_ok_iff.mp made
      exact fun path named => same path (List.mem_append_right _ (Option.mem_toList.mpr named))
    simp only [Except.map, Except.mapError_ok, bind, Except.bind,
      Connector.preflight_withPassword certificate]
    cases connector.preflight around.files libraries.client <;> rfl

end Startup

namespace Report

variable (s : Startup) (password : Option String) (format : OutputFormat)

theorem validation_withPassword :
    validation (s.withPassword password) format = validation s format := rfl

theorem dryRun_withPassword : dryRun (s.withPassword password) format = dryRun s format := rfl

end Report

namespace Program

section

variable {around around' : Surroundings} {bind : SocketAddress → Option String}
  {args args' : Arguments} {p q : PropertySet}

theorem beginWith_alike (libraries : Libraries)
    (alike : AlikeButPassword around around' args args' p q) :
    beginWith around' bind args' libraries =
      ((beginWith around bind args libraries).1.withPassword (q.get? Key.password),
        (beginWith around bind args libraries).2) := by
  unfold beginWith
  rw [Startup.configure_alike alike]
  cases configured : Startup.configure around args with
  | error f => rfl
  | ok settings =>
    obtain ⟨c, exporter⟩ := settings
    have files : ∀ path ∈ c.namedFiles, around'.files.read path = around.files.read path :=
      alike.files c (Startup.config_of_configure alike.properties configured)
    simp only [Except.map, Startup.mappings_withPassword _ files,
      Startup.connection_withPassword _ libraries files, Config.withPassword_exporter]
    cases Startup.mappings around c with
    | error f => rfl
    | ok registry =>
      cases Startup.connection around c libraries with
      | error f => rfl
      | ok connector =>
        dsimp only
        -- A report is the same without the password; a run that gives none looks for an address.
        have validation := Report.validation_withPassword ⟨c, exporter, registry, connector⟩
          (q.get? Key.password) args.outputFormat
        have dryRun := Report.dryRun_withPassword ⟨c, exporter, registry, connector⟩
          (q.get? Key.password) args.outputFormat
        rw [Startup.withPassword] at validation dryRun
        rw [alike.validate, alike.dryRun, alike.outputFormat, validation, dryRun]
        cases args.validate with
        | true => rfl
        | false =>
          cases args.dryRun with
          | true => rfl
          | false =>
            cases exporter with
            | logging => rfl
            | prometheus =>
              cases c.exporter.bindAddress with
              | error e => rfl
              | ok address =>
                simp only [Bool.false_eq_true, if_false]
                cases bind address <;> rfl

theorem output_withPassword (b : Beginning) (password : Option String) :
    output (b.withPassword password) = output b := by
  cases b <;> rfl

theorem errorLine?_withPassword (detail : String) (b : Beginning) (password : Option String) :
    errorLine? detail (b.withPassword password) = errorLine? detail b := by
  cases b <;> rfl

theorem exitCode_withPassword (b : Beginning) (password : Option String) :
    exitCode (b.withPassword password) = exitCode b := by
  cases b <;> rfl

/-- Whether a run reports or fails, and whatever the form of its report: what it prints, how it
ends and which of its steps it logs say nothing about the password, not even whether there is one.
In a failure text, `detail` is what a lower layer says about a file that both runs read. -/
theorem password_not_shown {words words' : List String}
    (parsed : Arguments.parse around.environment words = .ok args)
    (parsed' : Arguments.parse around'.environment words' = .ok args')
    (alike : AlikeButPassword around around' args args' p q) :
    output (begin around' bind words').1 = output (begin around bind words).1 ∧
      (∀ detail, errorLine? detail (begin around' bind words').1 =
        errorLine? detail (begin around bind words).1) ∧
      exitCode (begin around' bind words').1 = exitCode (begin around bind words).1 ∧
      (begin around' bind words').2 = (begin around bind words).2 := by
  rw [begin, begin, parsed, parsed']
  dsimp only
  rw [beginWith_alike _ alike]
  exact ⟨output_withPassword _ _, fun detail => errorLine?_withPassword detail _ _,
    exitCode_withPassword _ _, rfl⟩

end

namespace Secret

def bytes (text : String) : List UInt8 := text.toList.map fun c => UInt8.ofNat c.toNat

/-- The properties are read from the standard input. -/
def around (more : String) : Surroundings :=
  ⟨.ofList [("r", .ok (bytes "rules: []"))],
    bytes ("otel.jmx.service.url=h:1\notel.jmx.custom.jmx.scraping.config=r\n" ++ more),
    fun _ => none⟩

def words : List String := ["-c", "-", "--validate", "--output-format", "json"]

def args : Arguments where
  config := some "-"
  properties := []
  validate := true
  dryRun := false
  logLevel := .info
  logFormat := .text
  outputFormat := .json

def properties : PropertySet :=
  SortedMap.ofList [(Key.serviceUrl, "h:1"), (Key.customCatalog, "r")]

def free : SocketAddress → Option String := fun _ => none

end Secret

theorem sample_password_not_shown :
    Arguments.parse (Secret.around "").environment Secret.words = .ok Secret.args ∧
      AlikeButPassword (Secret.around "") (Secret.around "otel.jmx.password=x") Secret.args
        Secret.args Secret.properties (Secret.properties.insert Key.password "x") ∧
      output (begin (Secret.around "otel.jmx.password=x") Secret.free Secret.words).1 =
        output (begin (Secret.around "") Secret.free Secret.words).1 := by
  have parsed (more : String) :
      Arguments.parse (Secret.around more).environment Secret.words = .ok Secret.args := rfl
  have alike : AlikeButPassword (Secret.around "") (Secret.around "otel.jmx.password=x")
      Secret.args Secret.args Secret.properties (Secret.properties.insert Key.password "x") := {
    properties := Except.toOption_eq_some_iff.mp (by decide +kernel)
    properties' := Except.toOption_eq_some_iff.mp (by decide +kernel)
    password := by
      intro key other
      rw [SortedMap.get?_insert, if_neg other]
    files := fun _ _ _ _ => rfl
    validate := rfl
    dryRun := rfl
    outputFormat := rfl }
  exact ⟨parsed "", alike, (password_not_shown (parsed "") (parsed _) alike).1⟩

end Program

end BeanMeter
