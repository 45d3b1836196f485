import BeanMeter.Text.Blank
import BeanMeter.Text.Split

/-! # Arguments

The command line of the program. Options with a value take it from the same word, after an equals
sign or directly after the letter, or from the next word if that is no option itself.

* `Arguments` — what the command line asks for.
* `Arguments.parse` — reads the words of a command line, and what the environment says for options
  that are missing there.
-/

namespace BeanMeter

/-! ## What can be asked for -/

/-- How much is logged. -/
inductive LogLevel where
  | trace
  | debug
  | info
  | warn
  | error
  deriving DecidableEq, Repr

/-- The levels with their words. -/
def LogLevel.words : List (String × LogLevel) :=
  [("trace", .trace), ("debug", .debug), ("info", .info), ("warn", .warn), ("error", .error)]

/-- The word for a level. -/
def LogLevel.name : LogLevel → String
  | .trace => "trace"
  | .debug => "debug"
  | .info => "info"
  | .warn => "warn"
  | .error => "error"

/-- How the log is written. -/
inductive LogFormat where
  | text
  | json
  deriving DecidableEq, Repr

/-- The log formats with their words. -/
def LogFormat.words : List (String × LogFormat) := [("text", .text), ("json", .json)]

/-- How reports are written. -/
inductive OutputFormat where
  | text
  | json
  | yaml
  deriving DecidableEq, Repr

/-- The report formats with their words. -/
def OutputFormat.words : List (String × OutputFormat) :=
  [("text", .text), ("json", .json), ("yaml", .yaml)]

/-- The word for a report format. -/
def OutputFormat.name : OutputFormat → String
  | .text => "text"
  | .json => "json"
  | .yaml => "yaml"

/-- What a command line asks for. -/
structure Arguments where
  /-- The property file. -/
  config : Option String
  /-- Properties that count before those of the file. -/
  properties : List (String × String)
  validate : Bool
  dryRun : Bool
  logLevel : LogLevel
  logFormat : LogFormat
  outputFormat : OutputFormat
  deriving DecidableEq, Repr

/-- Whether the properties are read from the standard input. -/
def Arguments.configFromStdin (a : Arguments) : Bool := a.config == some "-"

/-! ## What can be wrong -/

/-- Why a text gives no property. -/
inductive PropertyFault where
  | noEquals (text : String)
  | emptyKey (text : String)
  deriving DecidableEq, Repr

/-- The wording of a fault. -/
def PropertyFault.message : PropertyFault → String
  | .noEquals text => "expected key=value, got '" ++ text ++ "'"
  | .emptyKey text => "empty key in '" ++ text ++ "'"

/-- Why a command line is not carried out. -/
inductive ArgumentFault where
  | unknown
  /-- A value is missing, or is none of those allowed. -/
  | invalidValue
  | property (fault : PropertyFault)
  /-- An option that can be given once is given again. -/
  | repeated
  /-- A value is given to an option that takes none. -/
  | unneededValue
  /-- Not a fault: only the help text is asked for. -/
  | help
  /-- Not a fault: only the version is asked for. -/
  | version
  deriving DecidableEq, Repr

/-- The key and value of a property given as one text. -/
def readProperty (text : String) : Except PropertyFault (String × String) :=
  match Text.splitFirst? '=' text.toList with
  | none => .error (.noEquals text)
  | some (key, value) =>
    match Text.trimChars key with
    | [] => .error (.emptyKey text)
    | key => .ok (String.ofList key, String.ofList (Text.trimChars value))

/-! ## Options -/

/-- The options that take a value. -/
inductive ValueOption where
  | config
  | property
  | logLevel
  | logFormat
  | outputFormat
  deriving DecidableEq, Repr

/-- The options that take none. -/
inductive Switch where
  | validate
  | dryRun
  | help
  | version
  deriving DecidableEq, Repr

/-- An option. -/
inductive CommandOption where
  | value (o : ValueOption)
  | switch (s : Switch)
  deriving DecidableEq, Repr

namespace CommandOption

/-- The options by their long names. -/
def longNames : List (String × CommandOption) := [
  ("config", .value .config),
  ("property", .value .property),
  ("validate", .switch .validate),
  ("dry-run", .switch .dryRun),
  ("log-level", .value .logLevel),
  ("log-format", .value .logFormat),
  ("output-format", .value .outputFormat),
  ("help", .switch .help),
  ("version", .switch .version)]

/-- The options by their letters. -/
def letters : List (Char × CommandOption) := [
  ('c', .value .config),
  ('D', .value .property),
  ('l', .value .logLevel),
  ('h', .switch .help),
  ('V', .switch .version)]

end CommandOption

/-! ## Reading -/

namespace Arguments

/-- What has been read so far. -/
structure Draft where
  config : Option String := none
  properties : List (String × String) := []
  validate : Bool := false
  dryRun : Bool := false
  logLevel : Option LogLevel := none
  logFormat : Option LogFormat := none
  outputFormat : Option OutputFormat := none

/-- The value for a word. -/
def choose {α : Type} (words : List (String × α)) (text : String) : Except ArgumentFault α :=
  match words.find? fun w => w.1 == text with
  | some (_, a) => .ok a
  | none => .error .invalidValue

/-- The name of a file, which must not be empty. -/
def fileName (text : String) : Except ArgumentFault String :=
  if text = "" then .error .invalidValue else .ok text

/-- The value of an option that can be given once; whether it was given before counts first. -/
def once {α : Type} (before : Option α) (read : Except ArgumentFault α) : Except ArgumentFault α :=
  if before.isSome then .error .repeated else read

/-- Takes the value of an option. -/
def Draft.set (d : Draft) (o : ValueOption) (text : String) : Except ArgumentFault Draft :=
  match o with
  | .config => do return { d with config := some (← once d.config (fileName text)) }
  | .property =>
    match readProperty text with
    | .ok p => .ok { d with properties := d.properties ++ [p] }
    | .error fault => .error (.property fault)
  | .logLevel =>
    do return { d with logLevel := some (← once d.logLevel (choose LogLevel.words text)) }
  | .logFormat =>
    do return { d with logFormat := some (← once d.logFormat (choose LogFormat.words text)) }
  | .outputFormat => do
    let format ← once d.outputFormat (choose OutputFormat.words text)
    return { d with outputFormat := some format }

/-- Takes a switch. -/
def Draft.turnOn (d : Draft) : Switch → Except ArgumentFault Draft
  | .validate => if d.validate then .error .repeated else .ok { d with validate := true }
  | .dryRun => if d.dryRun then .error .repeated else .ok { d with dryRun := true }
  | .help => .error .help
  | .version => .error .version

/-- An option whose value has been looked for in later words, but not been taken yet. -/
structure Open where
  option : ValueOption
  text : Option String

/-- Takes the value of the open option. A fault in it shows only here: one that is found in a later
word comes first. -/
def Draft.close (d : Draft) : Option Open → Except ArgumentFault Draft
  | none => .ok d
  | some ⟨o, some text⟩ => d.set o text
  | some ⟨_, none⟩ => .error .invalidValue

/-- Takes an option with the value given in the same word, if there is one. -/
def Draft.take (d : Draft) (pending : Option Open) (o : ValueOption) (text : Option String) :
    Except ArgumentFault (Draft × Option Open) := do
  let d ← d.close pending
  match text with
  | some text => return (← d.set o text, none)
  | none => return (d, some ⟨o, none⟩)

/-- Takes the word of a long option. -/
def Draft.long (d : Draft) (pending : Option Open) (word : List Char) :
    Except ArgumentFault (Draft × Option Open) :=
  let (name, text) : String × Option String :=
    match Text.splitFirst? '=' word with
    | some (name, text) => (String.ofList name, some (String.ofList text))
    | none => (String.ofList word, none)
  match CommandOption.longNames.find? fun o => o.1 == name, text with
  | none, _ => .error .unknown
  | some (_, .value o), text => d.take pending o text
  | some (_, .switch _), some _ => .error .unneededValue
  | some (_, .switch s), none => do return (← (← d.close pending).turnOn s, none)

/-- Takes the letters of a word, up to one that takes the rest as its value. -/
def Draft.short (d : Draft) (pending : Option Open) :
    List Char → Except ArgumentFault (Draft × Option Open)
  | [] => .ok (d, pending)
  | c :: rest =>
    match CommandOption.letters.find? fun o => o.1 == c with
    | none => .error .unknown
    | some (_, .value o) =>
      let text := match rest with
        | [] => none
        | '=' :: text => some (String.ofList text)
        | text => some (String.ofList text)
      d.take pending o text
    | some (_, .switch s) => do Draft.short (← (← d.close pending).turnOn s) none rest

/-- Takes the words of a command line. After `--` no option is recognized, and there is nothing
else that a word could be. -/
def Draft.words (d : Draft) (pending : Option Open) : List String → Except ArgumentFault Draft
  | [] => d.close pending
  | word :: rest =>
    match word.toList with
    -- Nothing may follow the word that ends the options.
    | ['-', '-'] => if rest = [] then d.close pending else .error .unknown
    | '-' :: '-' :: long => do
      let (d, pending) ← d.long pending long
      Draft.words d pending rest
    | '-' :: c :: short => do
      let (d, pending) ← d.short pending (c :: short)
      Draft.words d pending rest
    | _ =>
      match pending with
      -- A word that is no option is the value of the one before it.
      | some ⟨o, none⟩ => Draft.words d (some ⟨o, some word⟩) rest
      | _ => .error .unknown

/-- The variable that names the property file. -/
def configVariable : String := "JMX_SCRAPER_CONFIG"

/-- The variable that sets the log level. -/
def logLevelVariable : String := "JMX_SCRAPER_LOG_LEVEL"

/-- Takes what the environment says for an option that is not on the command line. -/
def Draft.fromVariable (d : Draft) (o : ValueOption) (missing : Bool) (value : Option String) :
    Except ArgumentFault Draft :=
  match value with
  | some text => if missing then d.set o text else .ok d
  | none => .ok d

/-- What a draft asks for, with the defaults of what is missing. -/
def Draft.finish (d : Draft) : Arguments where
  config := d.config
  properties := d.properties
  validate := d.validate
  dryRun := d.dryRun
  logLevel := d.logLevel.getD .info
  logFormat := d.logFormat.getD .text
  outputFormat := d.outputFormat.getD .text

/-- Reads a command line without the name of the program. -/
def parse (environment : String → Option String) (words : List String) :
    Except ArgumentFault Arguments := do
  let d ← Draft.words {} none words
  let d ← d.fromVariable .config d.config.isNone (environment configVariable)
  let d ← d.fromVariable .logLevel d.logLevel.isNone (environment logLevelVariable)
  return d.finish

end Arguments

end BeanMeter
