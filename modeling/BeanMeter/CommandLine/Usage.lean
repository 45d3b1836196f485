import BeanMeter.CommandLine.Arguments
import BeanMeter.Version

/-! # Usage

What the program says about its command line.

* `Usage.help` — the help text.
* `ArgumentFault.report` — what is said where a command line is not carried out.
-/

namespace BeanMeter

namespace Usage

/-- The options with their explanations. -/
def options : List (String × String) := [
  ("-c, --config <FILE>", "Properties file, or `-` to read from stdin [env: JMX_SCRAPER_CONFIG]"),
  ("-D, --property <KEY=VALUE>", "Property override (key=value), may be repeated"),
  ("    --validate", "Validate configuration and mappings without connecting"),
  ("    --dry-run", "Print the resolved read plan and mappings without connecting"),
  ("-l, --log-level <LOG_LEVEL>",
    "Log level: trace, debug, info, warn or error [env: JMX_SCRAPER_LOG_LEVEL] [default: info]"),
  ("    --log-format <LOG_FORMAT>", "Log output format: text or json [default: text]"),
  ("    --output-format <OUTPUT_FORMAT>",
    "Output format for --validate and --dry-run: text, json or yaml [default: text]"),
  ("-h, --help", "Print help"),
  ("-V, --version", "Print version")]

/-- How the program is called. -/
def summary : String := "Usage: jmx-scraper [OPTIONS]"

/-- An option and its explanation below it. -/
def optionText (o : String × String) : String := "  " ++ o.1 ++ "\n          " ++ o.2 ++ "\n"

/-- The help text. -/
def help : String :=
  "jmx-scraper - polls JMX attributes through a Jolokia agent\n\n" ++ summary ++ "\n\nOptions:\n" ++
    "\n".intercalate (options.map optionText)

end Usage

/-- What is wrong with a command line. -/
def ArgumentFault.message : ArgumentFault → String
  | .unknown => "unexpected argument"
  | .invalidValue => "invalid or missing value"
  | .property fault => fault.message
  | .repeated => "an argument cannot be used multiple times"
  | .unneededValue => "unexpected value for an option that takes none"
  | .help => "help requested"
  | .version => "version requested"

/-- What is said where a command line is not carried out. -/
def ArgumentFault.report (fault : ArgumentFault) : String :=
  "error: " ++ fault.message ++ "\n\n" ++ Usage.summary ++
    "\n\nFor more information, try '--help'.\n"

end BeanMeter
