import BeanMeter.Agent.Exchange

/-! # Scripted agents

Agents that answer requests from a list, one entry for each request, for trying out conversations
without a network.

* `ScriptedReply` — an entry of a script, with `ScriptedReply.reply` for what it comes to.
* `Peer` — an agent that follows a script, or none that can be reached.
* `Exchange.run` — holds a conversation with a peer and records the requests.
-/

namespace BeanMeter

/-- An answer in a script. -/
structure ScriptedAnswer where
  status : Nat
  headers : List (String × String)
  body : List UInt8
  /-- How many bytes of the body never arrive. -/
  missingBytes : Nat
  /-- How long the answer takes. -/
  delayMs : Nat
  deriving Repr

/-- An entry of a script. -/
inductive ScriptedReply where
  | close
  /-- The request is never answered. -/
  | hang
  | answer (a : ScriptedAnswer)
  deriving Repr

namespace ScriptedAnswer

/-- Whether a character can stand in a header value that is read as text. -/
def isVisible (c : Char) : Bool := c == '\t' || (0x20 ≤ c.toNat && c.toNat < 0x7f)

/-- The challenge among the headers: the first one, if it is text. -/
def challenge? (a : ScriptedAnswer) : Option String :=
  ((a.headers.find? fun h => Text.equalIgnoringCase h.1 "WWW-Authenticate").map (·.2)).filter
    fun v => v.toList.all isVisible

/-- The body as text; none if part of it never arrives. -/
def text? (a : ScriptedAnswer) : Option String :=
  if a.missingBytes = 0 then some (Text.Utf8.decodeLossy a.body) else none

/-- The answer as the program sees it. An answer of status 204 has no body. -/
def toAnswer (a : ScriptedAnswer) : Answer :=
  ⟨a.status, a.challenge?, if a.status = 204 then some "" else a.text?⟩

end ScriptedAnswer

namespace ScriptedReply

/-- After how many milliseconds the program goes on, if the script decides that. -/
def delayMs (timeoutMs : Nat) : ScriptedReply → Nat
  | .close => 0
  | .hang => timeoutMs
  | .answer a => min a.delayMs timeoutMs

/-- What comes back to a program that waits for at most `timeoutMs`. -/
def reply (timeoutMs : Nat) : ScriptedReply → Reply
  | .close => .lost
  | .hang => .late
  -- What arrives with the end of the wait arrives too late.
  | .answer a => if timeoutMs ≤ a.delayMs then .late else .answered a.toAnswer

end ScriptedReply

/-- Who is at the other end. -/
inductive Peer where
  /-- An agent that follows a script and closes the connection once the script has ended. -/
  | scripted (replies : List ScriptedReply)
  /-- Nobody: no request arrives. -/
  | nobody
  deriving Repr

/-- Holds a conversation with a peer: returns its value, the requests that arrived, and the peer as
it is afterwards. -/
def Exchange.run (timeoutMs : Nat) : Exchange α → Peer → α × List AgentRequest × Peer
  | .done a, peer => (a, [], peer)
  | .send _ k, .nobody => (k .lost).run timeoutMs .nobody
  | .send r k, .scripted replies =>
    let (reply, rest) :=
      match replies with
      | [] => (Reply.lost, [])
      | next :: rest => (next.reply timeoutMs, rest)
    let (a, requests, peer) := (k reply).run timeoutMs (.scripted rest)
    (a, r :: requests, peer)

end BeanMeter
