import BeanMeter.Agent.Challenge
import BeanMeter.Agent.ServiceAddress
import BeanMeter.Text.Base64
import BeanMeter.Text.Utf8

/-! # Endpoints

Everything that is known about the agent before it is contacted: where it is, how it is reached and
as whom.

* `Credentials` — a user name and password, with the header that carries them.
* `Endpoint` — the description of an agent.
* `Endpoint.url` — the URL of the agent.
* `Endpoint.ofConfig` — the endpoint of a configuration.
-/

namespace BeanMeter

/-- A user name and a password. -/
structure Credentials where
  username : String
  password : String
  deriving DecidableEq, Repr

namespace Credentials

/-- The header value that carries the credentials. -/
def header (c : Credentials) : String :=
  "Basic " ++ String.ofList
    (Text.Base64.encode (Text.Utf8.encode (c.username ++ ":" ++ c.password)))

/-- Credentials as they may be shown: the password is not. -/
def redacted (c : Credentials) : String :=
  "Credentials \x7b username: " ++ Text.quote c.username ++ ", password: " ++ Text.quote "***" ++
    " \x7d"

end Credentials

/-- How an agent is reached. -/
inductive Transport where
  | plain
  | encrypted
  deriving DecidableEq, Repr

/-- The URL scheme of a transport. -/
def Transport.scheme : Transport → String
  | .plain => "http"
  | .encrypted => "https"

/-- The description of an agent and of who asks it. -/
structure Endpoint where
  address : ServiceAddress
  username : Option String
  password : Option String
  profile : Option String
  realm : Option String
  /-- Whether the configuration asks for an encrypted transport. -/
  registrySsl : Bool
  deriving DecidableEq, Repr

namespace Endpoint

/-- Whether the transport is encrypted: the configuration or the service URL asks for it. -/
def isEncrypted (e : Endpoint) : Bool := e.registrySsl || e.address.tls

/-- How the agent is reached. -/
def transport (e : Endpoint) : Transport := if e.isEncrypted then .encrypted else .plain

/-- The host and port, by which the agent is named in messages. -/
def name (e : Endpoint) : String := e.address.host ++ ":" ++ naturalText e.address.port

/-- The URL of the agent. -/
def url (e : Endpoint) : String :=
  e.transport.scheme ++ "://" ++ e.name ++ e.address.contextPath

/-- The credentials, if both parts are configured. -/
def credentials? (e : Endpoint) : Option Credentials :=
  match e.username, e.password with
  | some username, some password => some ⟨username, password⟩
  | _, _ => none

/-- The handler that answers challenges, if a profile is configured. -/
def handler? (e : Endpoint) : Option CallbackHandler :=
  e.profile.map fun _ => ⟨e.username, e.password, e.realm⟩

/-- The endpoint of a configuration. -/
def ofConfig (c : Config) (readUrl : UrlReader := Url.reader) : Except ConfigError Endpoint :=
  (ServiceAddress.parse c.serviceUrl readUrl).map fun address =>
    ⟨address, c.connection.username, c.connection.password, c.connection.remoteProfile,
      c.connection.realm, c.connection.registrySsl⟩

end Endpoint

end BeanMeter
