import BeanMeter.Config.Checked
import BeanMeter.Net.Url

/-! # Service addresses

Where the agent is: the host, port and path named by a service URL, in one of three forms. What is
in a URL is left to a reader, which the program is given.

* `ServiceAddress.parse` — reads a service URL.
* `AddressFault` — why a text is no service URL.
-/

namespace BeanMeter

/-- Why a text is no service URL. -/
inductive AddressFault where
  | missingPort
  | unsupportedScheme
  /-- A registry URL does not name a registry. -/
  | missingRegistry
  /-- There is no URL, in the words of its reader. -/
  | url (reason : String)
  deriving DecidableEq, Repr

/-- The wording of a fault. -/
def AddressFault.message : AddressFault → String
  | .missingPort => "missing port"
  | .unsupportedScheme => "unsupported scheme"
  | .missingRegistry => "expected service:jmx:rmi:///jndi/rmi://host:port/..."
  | .url reason => reason

/-- Where the agent is. -/
structure ServiceAddress where
  host : String
  port : Nat
  contextPath : String
  /-- Whether the URL itself asks for an encrypted transport. -/
  tls : Bool
  deriving DecidableEq, Repr

namespace ServiceAddress

/-- The path of the agent where the URL names none. -/
def defaultContextPath : String := "/jolokia"

/-- The host of the agent where the URL names none. -/
def defaultHost : String := "localhost"

/-- The host of a URL, if it names one. -/
def hostOf : Option String → String
  | none => defaultHost
  | some host => if host = "" then defaultHost else host

/-- A path without the slashes at its end; an empty one has a default. -/
def contextPathOf (path : List Char) : String :=
  match (path.reverse.dropWhile (· == '/')).reverse with
  | [] => defaultContextPath
  | p => String.ofList p

/-- The address named by a URL, given what follows its scheme. -/
def ofUrl (readUrl : UrlReader) (tls : Bool) (afterScheme : List Char) :
    Except AddressFault ServiceAddress :=
  match readUrl tls afterScheme with
  | .error reason => .error (.url reason)
  | .ok url =>
    match url.port with
    | none => .error .missingPort
    | some port => .ok ⟨hostOf url.host, port, contextPathOf url.path, tls⟩

/-- Whether something follows the last colon of a text. -/
def hasPort (cs : List Char) : Bool :=
  cs.contains ':' && cs.getLast? != some ':'

/-- The host and port of the registry in the rest of a registry URL: what stands between the second
registry scheme and the next slash. -/
def registryAuthority? (rest : List Char) : Option (List Char) :=
  let scheme := "rmi://".toList
  (Text.splitInfix? scheme rest).bind fun (_, tail) =>
    (Text.splitInfix? scheme tail).map fun (_, registry) => registry.takeWhile (· != '/')

/-- The address named by the rest of a registry URL. -/
def ofRegistry (readUrl : UrlReader) (rest : List Char) : Except AddressFault ServiceAddress :=
  match registryAuthority? rest with
  | none => .error .missingRegistry
  | some authority =>
    if hasPort authority then
      let host := if authority.head? = some ':' then defaultHost.toList else []
      ofUrl readUrl false (host ++ authority)
    else .error .missingPort

/-- The address named by a service URL without blanks around it: a registry URL, a URL with a
scheme, or a host with a port and possibly a path. -/
def parseChars (readUrl : UrlReader) (cs : List Char) : Except AddressFault ServiceAddress :=
  match Text.stripStart? "service:jmx:".toList cs with
  | some rest => ofRegistry readUrl rest
  | none =>
    if Text.containsInfix "://".toList cs then
      match Text.stripStart? "https://".toList cs, Text.stripStart? "http://".toList cs with
      | some rest, _ => ofUrl readUrl true rest
      | none, some rest => ofUrl readUrl false rest
      | none, none => .error .unsupportedScheme
    else if hasPort cs then ofUrl readUrl false cs
    else .error .missingPort

/-- The address named by a service URL. -/
def parse (serviceUrl : String) (readUrl : UrlReader := Url.reader) :
    Except ConfigError ServiceAddress :=
  let url := Text.trim serviceUrl
  match parseChars readUrl url.toList with
  | .ok address => .ok address
  | .error fault =>
    .error (.invalid Key.serviceUrl
      ("'" ++ url ++ "' is not a valid service URL: " ++ fault.message))

end ServiceAddress

end BeanMeter
