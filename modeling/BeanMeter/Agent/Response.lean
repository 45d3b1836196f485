import BeanMeter.Json.Record
import BeanMeter.Number.Notation

/-! # Agent responses

The records with which the agent answers: one for each entry of a bulk read, and one for a version
probe.

* `Response`, `RequestEcho` — the records.
* `Response.parseBulk?` — the entries of the answer to a bulk read.
* `AgentInfo.ofProbe` — what an answer to a version probe says about the agent.
-/

namespace BeanMeter

/-- The part of a request that the agent repeats in its answer. -/
structure RequestEcho where
  /-- The object name or name pattern. -/
  mbean : Option String
  /-- The requested attribute or attributes. -/
  attributes : Option Json
  kind : Option String
  deriving Repr, Inhabited

/-- One entry of an answer. -/
structure Response where
  request : RequestEcho
  value : Option Json
  /-- 200 where the request succeeded. -/
  status : Nat
  /-- Seconds since the epoch. -/
  timestamp : Nat
  error : Option String
  errorType : Option String
  deriving Repr, Inhabited

namespace RequestEcho

/-- The echo of a request that is not repeated at all. -/
def absent : RequestEcho := ⟨none, none, none⟩

/-- The fields of an echo, in order. -/
def fieldNames : List String := ["mbean", "attribute", "type"]

/-- Reads an echo whose fields may nest `depth` containers. -/
def ofDocument? (depth : Nat) (d : Json.Document) : Option RequestEcho := do
  let r ← Json.Record.ofDocument? fieldNames d
  let mbean ← r.optional? depth "mbean" Json.text?
  let attributes ← r.optional? depth "attribute" some
  let kind ← r.optional? depth "type" Json.text?
  return ⟨mbean, attributes, kind⟩

end RequestEcho

namespace Response

/-- The fields of an entry, in order. -/
def fieldNames : List String := ["request", "value", "status", "timestamp", "error", "error_type"]

/-- Reads an entry whose fields may nest `depth` containers. Only the status must be there; an
echo that is there must be a record. -/
def ofDocument? (depth : Nat) (d : Json.Document) : Option Response := do
  let r ← Json.Record.ofDocument? fieldNames d
  -- Fields are read in the order of a record, so the first fault is always the same.
  let request ←
    match r.get? "request" with
    | none => some RequestEcho.absent
    | some e => RequestEcho.ofDocument? (depth - 1) e
  let value ← r.optional? depth "value" some
  let status ← r.required? depth "status" (Json.intWithin? 0 65535)
  let timestamp ← r.defaulted? depth "timestamp" 0 (Json.intWithin? 0 0xffffffffffffffff)
  let error ← r.optional? depth "error" Json.text?
  let errorType ← r.optional? depth "error_type" Json.text?
  return ⟨request, value, status.toNat, timestamp.toNat, error, errorType⟩

/-- The entries of the answer to a bulk read: an array of records. -/
def parseBulk? (body : String) : Option (List Response) :=
  match Json.Document.parse? body.toList with
  | some (.array items) => items.mapM (ofDocument? (Json.Document.maxDepth - 2))
  | _ => none

/-- A single entry on its own. -/
def parse? (body : String) : Option Response :=
  (Json.Document.parse? body.toList).bind (ofDocument? (Json.Document.maxDepth - 1))

end Response

/-- What the agent says about itself. -/
structure AgentInfo where
  agent : String
  protocol : Option String
  deriving DecidableEq, Repr

/-- Why an answer to a version probe says nothing about the agent. -/
inductive ProbeFault where
  /-- The answer is no response record. -/
  | malformed
  | status (code : Nat) (error : String)
  | missingValue
  | missingAgent
  deriving DecidableEq, Repr

namespace ProbeFault

/-- The wording of a fault; a malformed answer is described by `detail`. -/
def message (detail : String) : ProbeFault → String
  | .malformed => detail
  | .status code error => "status " ++ naturalText code ++ ": " ++ error
  | .missingValue => "missing value"
  | .missingAgent => "missing agent version"

end ProbeFault

namespace AgentInfo

/-- What a response says about the agent: its value is an object with the version of the agent
and possibly that of the protocol. -/
def ofResponse (r : Response) : Except ProbeFault AgentInfo :=
  if r.status ≠ 200 then .error (.status r.status (r.error.getD ""))
  else
    match r.value with
    | none => .error .missingValue
    | some v =>
      match (v.field? "agent").bind Json.text? with
      | none => .error .missingAgent
      | some agent => .ok ⟨agent, (v.field? "protocol").bind Json.text?⟩

/-- What an answer to a version probe says about the agent. -/
def ofProbe (body : String) : Except ProbeFault AgentInfo :=
  match Response.parse? body with
  | none => .error .malformed
  | some r => ofResponse r

end AgentInfo

end BeanMeter
