import BeanMeter.Agent.Endpoint
import BeanMeter.Json.Value

/-! # Exchanges with the agent

What passes between the program and an agent, without saying how it is carried.

* `ReadRequest`, `AgentRequest` — what is asked.
* `Reply` — what comes back, if anything.
* `Exchange` — a conversation that ends in a value: it says what to ask next and how to go on with
  whatever comes back.
-/

namespace BeanMeter

/-- One entry of a bulk read: an object name or name pattern, and the attributes to read. An empty
list stands for all. -/
structure ReadRequest where
  mbean : String
  attributes : List String
  deriving DecidableEq, Repr

namespace ReadRequest

/-- The request as it is sent. A missing attribute is to be answered by a placeholder instead of
failing the entry. -/
def toJson (r : ReadRequest) : Json :=
  .obj ([("type", .str "read"), ("mbean", .str r.mbean)] ++
    (if r.attributes = [] then [] else [("attribute", .arr (r.attributes.map .str))]) ++
    [("config", .obj [("ignoreErrors", .bool true)])])

end ReadRequest

/-- What is asked of an agent. -/
inductive Query where
  /-- Which version the agent is. -/
  | version
  /-- The values of attributes. -/
  | bulkRead (requests : List ReadRequest)
  deriving DecidableEq, Repr

/-- A request as the agent sees it. -/
structure AgentRequest where
  query : Query
  /-- The path under which the agent serves. -/
  contextPath : String
  /-- The credentials that the request carries. -/
  authorization : Option Credentials
  deriving DecidableEq, Repr

namespace AgentRequest

/-- The method: a bulk read has a body. -/
def method (r : AgentRequest) : String :=
  match r.query with
  | .version => "GET"
  | .bulkRead _ => "POST"

/-- The path of the request. -/
def path (r : AgentRequest) : String :=
  match r.query with
  | .version => r.contextPath ++ "/version"
  | .bulkRead _ => r.contextPath

/-- The body of the request. -/
def body? (r : AgentRequest) : Option Json :=
  match r.query with
  | .version => none
  | .bulkRead requests => some (.arr (requests.map ReadRequest.toJson))

end AgentRequest

/-- An answer to a request. -/
structure Answer where
  /-- The status code. -/
  status : Nat
  /-- The challenge that it carries. -/
  challenge : Option String
  /-- The text of its body, unless the connection ended before the whole body had arrived. -/
  body : Option String
  deriving DecidableEq, Repr

/-- What comes back for a request. -/
inductive Reply where
  /-- The connection ended, or was never made. -/
  | lost
  /-- Nothing came back in the time allowed. -/
  | late
  | answered (a : Answer)
  deriving DecidableEq, Repr

/-- A conversation with an agent that ends in a value. -/
inductive Exchange (α : Type u) where
  /-- Nothing more is asked. -/
  | done (a : α)
  /-- A request is sent, and the conversation goes on with what comes back. -/
  | send (request : AgentRequest) (resume : Reply → Exchange α)

namespace Exchange

/-- Goes on with a conversation that depends on the value of the first. -/
def andThen : Exchange α → (α → Exchange β) → Exchange β
  | .done a, f => f a
  | .send r k, f => .send r fun reply => (k reply).andThen f

/-- Applies a function to the value of a conversation. -/
def map (f : α → β) : Exchange α → Exchange β
  | .done a => .done (f a)
  | .send r k => .send r fun reply => (k reply).map f

instance : Monad Exchange where
  pure := .done
  bind := andThen

end Exchange

end BeanMeter
