import BeanMeter.Agent.Exchange
import BeanMeter.Agent.Pem
import BeanMeter.Agent.ReadResults

/-! # Connections

Opening a session with an agent and reading attributes in it.

* `ConnectionError`, `ReadError` — what can go wrong, with its wording.
* `ClientLibrary` — whatever makes the settings of requests for the program.
* `Connector.preflight` — the settings of requests, made before anything is sent.
* `Connector.connect` — probes the version of the agent, answering at most one challenge.
* `Session.read` — one bulk read.
-/

namespace BeanMeter

/-- Why no session could be opened. -/
inductive ConnectionError where
  /-- The settings of requests could not be made. -/
  | setup (endpoint : String)
  | unreachable (endpoint : String)
  | timeout (endpoint : String) (timeoutMs : Nat)
  | status (endpoint : String) (code : Nat)
  | authenticationFailed (endpoint : String)
  /-- A challenge asks for something that no handler can answer. -/
  | unsupportedCallback (endpoint callback : String)
  /-- The answer says nothing about an agent. -/
  | notAnAgent (endpoint : String) (fault : ProbeFault)
  | unsupportedTransport (endpoint : String)
  /-- The trusted certificate could not be read, or was refused. -/
  | certificate (path reason : String)
  deriving DecidableEq, Repr

namespace ConnectionError

/-- The wording of an error; `detail` is what a lower layer has to say about it. -/
def message (detail : String) : ConnectionError → String
  | .setup e => "Failed to initialize HTTP client for " ++ e ++ ": " ++ detail
  | .unreachable e => "Unable to connect to " ++ e ++ ": " ++ detail
  | .timeout e ms => "Unable to connect to " ++ e ++ ": timed out after " ++ naturalText ms ++ "ms"
  | .status e code => "Unable to connect to " ++ e ++ ": HTTP status " ++ naturalText code
  | .authenticationFailed e => "Authentication failed for " ++ e
  | .unsupportedCallback e callback =>
    "Unsupported authentication callback '" ++ callback ++ "' for " ++ e
  | .notAnAgent e fault => "Unexpected agent response from " ++ e ++ ": " ++ fault.message detail
  | .unsupportedTransport e =>
    "Encrypted registry transport is not supported by this build (endpoint " ++ e ++ ")"
  | .certificate path reason => "Failed to load CA certificate '" ++ path ++ "': " ++ reason

/-- Whether trying again cannot help. -/
def isFatal : ConnectionError → Bool
  | .unsupportedTransport _ | .certificate _ _ => true
  | _ => false

end ConnectionError

/-- Why a read failed. -/
inductive ReadError where
  | transport (endpoint : String)
  | timeout (endpoint : String) (timeoutMs : Nat)
  | status (endpoint : String) (code : Nat)
  /-- The body is no answer to a bulk read. -/
  | undecodable (endpoint : String)
  deriving DecidableEq, Repr

namespace ReadError

/-- The endpoint that was read from. -/
def endpoint : ReadError → String
  | .transport e | .timeout e _ | .status e _ | .undecodable e => e

/-- The wording of an error; `detail` is what a lower layer has to say about it. -/
def message (detail : String) : ReadError → String
  | .transport e => "Read from " ++ e ++ " failed: " ++ detail
  | .timeout e ms => "Read from " ++ e ++ " timed out after " ++ naturalText ms ++ "ms"
  | .status e code => "Read from " ++ e ++ " returned HTTP status " ++ naturalText code
  | .undecodable e => "Read from " ++ e ++ " returned an undecodable body: " ++ detail

end ReadError

/-- Whether a status code says that a request succeeded. -/
def isSuccess (status : Nat) : Bool := 200 ≤ status && status < 300

/-- How a request failed. -/
inductive RequestFault where
  | transport
  | timeout
  | status (code : Nat)
  /-- The agent wants to know who asks, possibly with a challenge. -/
  | unauthorized (challenge : Option String)
  deriving DecidableEq, Repr

/-- The body of a successful answer. -/
def Reply.body : Reply → Except RequestFault String
  | .lost => .error .transport
  | .late => .error .timeout
  | .answered a =>
    -- A refusal is told from other failures even where its body is lost.
    if a.status = 401 then .error (.unauthorized a.challenge)
    else if isSuccess a.status then
      match a.body with
      | some body => .ok body
      | none => .error .transport
    else .error (.status a.status)

/-- What makes the settings of requests. A certificate file is looked at when it is handed over, and
again when the settings are made from it. -/
structure ClientLibrary where
  /-- What is wrong with a certificate file that is handed over, in the words of the library. -/
  refusal? : List UInt8 → Option String
  /-- Whether the settings for a transport can be made, possibly with a certificate file. -/
  builds : Transport → Option (List UInt8) → Bool

/-- The library that the program is run with. It takes any file when it is handed over, and looks
into it when the settings are made. -/
def ClientLibrary.standard : ClientLibrary where
  refusal? _ := none
  builds _ certificate := certificate.all Pem.isReadable

/-- The settings with which requests are sent. -/
structure AgentClient where
  baseUrl : String
  contextPath : String
  timeoutMs : Nat
  authorization : Option Credentials
  deriving DecidableEq, Repr

/-- A request with the settings of a client. -/
def AgentClient.request (c : AgentClient) (q : Query) : AgentRequest :=
  ⟨q, c.contextPath, c.authorization⟩

/-- An open session. -/
structure Session where
  client : AgentClient
  endpoint : String
  agent : AgentInfo
  deriving DecidableEq, Repr

/-- How sessions with an endpoint are opened. -/
structure Connector where
  endpoint : Endpoint
  callTimeoutMs : Nat
  caCertificate : Option String
  deriving DecidableEq, Repr

namespace Connector

/-- The connector of a configuration. -/
def ofConfig (c : Config) (readUrl : UrlReader := Url.reader) : Except ConfigError Connector :=
  (Endpoint.ofConfig c readUrl).map fun e => ⟨e, c.connection.callTimeoutMs, c.connection.caCertificate⟩

/-- The certificate file that requests trust. Only the encrypted transport looks at it. -/
def trusted (c : Connector) (files : Files) (library : ClientLibrary) :
    Except ConnectionError (Option (List UInt8)) :=
  match c.endpoint.transport, c.caCertificate with
  | .encrypted, some path =>
    match files.read path with
    | .error fault => .error (.certificate path fault.message)
    | .ok bytes =>
      match library.refusal? bytes with
      | some reason => .error (.certificate path reason)
      | none => .ok (some bytes)
  | _, _ => .ok none

/-- A URL without slashes at its end. -/
def trimSlashes (url : String) : String :=
  String.ofList (url.toList.reverse.dropWhile (· == '/')).reverse

/-- The settings of requests, without credentials. -/
def preflight (c : Connector) (files : Files) (library : ClientLibrary := .standard) :
    Except ConnectionError AgentClient :=
  match c.trusted files library with
  | .error e => .error e
  | .ok certificate =>
    if library.builds c.endpoint.transport certificate then
      .ok ⟨trimSlashes c.endpoint.url, trimSlashes c.endpoint.address.contextPath,
        c.callTimeoutMs, none⟩
    else .error (.setup c.endpoint.name)

/-- The connection error for a failed probe. -/
def probeError (c : Connector) : RequestFault → ConnectionError
  | .transport => .unreachable c.endpoint.name
  | .timeout => .timeout c.endpoint.name c.callTimeoutMs
  | .status code => .status c.endpoint.name code
  | .unauthorized _ => .authenticationFailed c.endpoint.name

/-- The session that a successful probe opens. -/
def opened (c : Connector) (client : AgentClient) (body : String) :
    Except ConnectionError Session :=
  match AgentInfo.ofProbe body with
  | .ok agent => .ok ⟨client, c.endpoint.name, agent⟩
  | .error fault => .error (.notAnAgent c.endpoint.name fault)

/-- The values that callbacks hold, once a handler has filled them in. -/
def answered (callbacks : List Callback) : Option String × Option String :=
  callbacks.foldl (fun found c =>
    match c with
    | .name value => (value, found.2)
    | .password value => (found.1, value)
    | _ => found) (none, none)

/-- Answers a challenge: runs its callbacks through a handler and takes the credentials out of
them. Without a challenge one of the basic scheme is assumed. The realm is answered too, but there
is no place for it in the request. -/
def answerChallenge (endpoint : String) (handler : CallbackHandler) (challenge : Option String) :
    Except ConnectionError Credentials :=
  match handler.handle (Challenge.parse (challenge.getD "Basic")).callbacks with
  | (some kind, _) => .error (.unsupportedCallback endpoint kind)
  | (none, callbacks) =>
    match answered callbacks with
    | (some username, some password) => .ok ⟨username, password⟩
    | _ => .error (.authenticationFailed endpoint)

/-- The second probe, after a challenge has been answered. -/
def probeAgain (c : Connector) (client : AgentClient) :
    Exchange (Except ConnectionError Session) :=
  .send (client.request .version) fun reply =>
    match reply.body with
    | .ok body => .done (c.opened client body)
    | .error fault => .done (.error (c.probeError fault))

/-- Opens a session: probes the version of the agent, and once more if the first probe was answered
by a challenge that the handler can answer. -/
def connect (c : Connector) (files : Files) : Exchange (Except ConnectionError Session) :=
  match c.preflight files with
  | .error e => .done (.error e)
  | .ok client =>
    let client := { client with authorization := c.endpoint.credentials? }
    .send (client.request .version) fun reply =>
      match reply.body with
      | .ok body => .done (c.opened client body)
      | .error (.unauthorized challenge) =>
        match c.endpoint.handler? with
        | none => .done (.error (.authenticationFailed c.endpoint.name))
        | some handler =>
          -- The answer to a challenge is tried once: a second one ends the attempt.
          match answerChallenge c.endpoint.name handler challenge with
          | .error e => .done (.error e)
          | .ok credentials => c.probeAgain { client with authorization := some credentials }
      | .error fault => .done (.error (c.probeError fault))

end Connector

namespace Session

/-- The read error for a failed read. -/
def readError (s : Session) : RequestFault → ReadError
  | .transport => .transport s.endpoint
  | .timeout => .timeout s.endpoint s.client.timeoutMs
  | .status code => .status s.endpoint code
  | .unauthorized _ => .status s.endpoint 401

/-- The results in what comes back for a bulk read. -/
def results (s : Session) (reply : Reply) : Except ReadError ReadResults :=
  match reply.body with
  | .error fault => .error (s.readError fault)
  | .ok body =>
    match Response.parseBulk? body with
    | some responses => .ok (ReadResults.ofResponses responses)
    | none => .error (.undecodable s.endpoint)

/-- Reads attributes in one request; nothing is sent if there is nothing to read. -/
def read (s : Session) (requests : List ReadRequest) :
    Exchange (Except ReadError ReadResults) :=
  if requests = [] then .done (.ok (ReadResults.ofResponses []))
  else .send (s.client.request (.bulkRead requests)) fun reply => .done (s.results reply)

end Session

end BeanMeter
