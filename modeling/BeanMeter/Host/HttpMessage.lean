import BeanMeter.Agent.Exchange
import BeanMeter.Exposition.Routes
import BeanMeter.Json.Printer
import BeanMeter.Number.Reading
import BeanMeter.Text.Utf8

/-! # HTTP messages

Requests and answers as they pass over a connection. A message has a head, which ends at the first
empty line, and a body; the fields of the head say how long the body is.

* `Head.split?` — the head of a message and the bytes after it.
* `Framing.body?` — the body in these bytes, once all of it has arrived.
* `AgentRequest.httpText`, `readReply?` — a request to an agent, and what comes back for it.
* `readTarget?`, `RouteReply.httpText` — a request for one of the program's own pages, and its
  answer.
-/

namespace BeanMeter.HttpMessage

/-! ## Heads -/

/-- The head of a message. -/
structure Head where
  firstLine : String
  fields : List (String × String)
  deriving DecidableEq, Repr

namespace Head

/-- The bytes before and after the first empty line. -/
def splitBytes? : List UInt8 → Option (List UInt8 × List UInt8)
  | 13 :: 10 :: 13 :: 10 :: rest => some ([], rest)
  | b :: rest => (splitBytes? rest).map fun (head, body) => (b :: head, body)
  | [] => none

/-- The name and the value of a field. -/
def readField? (line : List Char) : Option (String × String) :=
  (Text.splitFirst? ':' line).map fun (name, value) =>
    (String.ofList name, String.ofList (Text.trimChars value))

/-- Reads the lines of a head. -/
def ofText (text : String) : Head :=
  match Text.lines text.toList with
  | [] => ⟨"", []⟩
  | first :: fields => ⟨String.ofList first, fields.filterMap readField?⟩

/-- The head of a message and the bytes after it, once all of the head has arrived. -/
def split? (bytes : List UInt8) : Option (Head × List UInt8) :=
  (splitBytes? bytes).map fun (head, rest) => (ofText (Text.Utf8.decodeLossy head), rest)

/-- The first field with a name. -/
def field? (h : Head) (name : String) : Option String :=
  (h.fields.find? fun f => Text.equalIgnoringCase f.1 name).map (·.2)

/-- The words of the first line. -/
def words (h : Head) : List String := Text.splitString ' ' h.firstLine

end Head

/-! ## Bodies -/

/-- How long a body is. -/
inductive Framing where
  | sized (n : Nat)
  /-- Pieces with their sizes in front, up to one of size zero. -/
  | chunked
  /-- Up to the end of the connection. -/
  | untilEnd
  deriving DecidableEq, Repr

namespace Framing

/-- What the head of an answer says about its body. -/
def ofHead (h : Head) : Framing :=
  if (h.field? "transfer-encoding").any fun v => Text.equalIgnoringCase v "chunked" then .chunked
  else
    match (h.field? "content-length").bind fun v => readNatural? v.toList with
    | some n => .sized n
    | none => .untilEnd

/-- The size in front of a piece and the bytes after its line. -/
def chunkSize? (bytes : List UInt8) : Option (Nat × List UInt8) :=
  let line := bytes.takeWhile (· != 10)
  let digits := (Text.Utf8.decodeLossy line).toList.takeWhile fun c => (hexValue? c).isSome
  if line.length < bytes.length then
    (readHexDigits? digits).map fun n => (n, bytes.drop (line.length + 1))
  else none

/-- The pieces of a body joined together. Every piece takes up a byte at least, so `fuel` of the
number of bytes is enough. -/
def dechunk? : Nat → List UInt8 → Option (List UInt8)
  | 0, _ => none
  | fuel + 1, bytes =>
    (chunkSize? bytes).bind fun (n, rest) =>
      if n = 0 then some []
      else if rest.length < n + 2 then none
      else (dechunk? fuel (rest.drop (n + 2))).map (rest.take n ++ ·)

/-- The body in the bytes after a head, if all of it has arrived. -/
def body? (ended : Bool) (bytes : List UInt8) : Framing → Option (List UInt8)
  | .sized n => if n ≤ bytes.length then some (bytes.take n) else none
  | .chunked => dechunk? (bytes.length + 1) bytes
  | .untilEnd => if ended then some bytes else none

end Framing

/-! ## Asking an agent -/

/-- The lines of a head, each ended, and the empty line after them. -/
def headText (lines : List String) : String :=
  String.join ((lines ++ [""]).map fun l => l ++ "\r\n")

/-- The status code in the first line of an answer. -/
def statusOf? (h : Head) : Option Nat :=
  match h.words with
  | _ :: code :: _ => readDigits? code.toList
  | _ => none

/-- The answer in the bytes that have arrived; none as long as more are needed. A connection that
ends early loses the body, or all of the answer. -/
def readReply? (ended : Bool) (bytes : List UInt8) : Option Reply :=
  match Head.split? bytes with
  | none => if ended then some .lost else none
  | some (head, rest) =>
    match statusOf? head with
    | none => some .lost
    | some status =>
      let framing := if status = 204 ∨ status = 304 then .sized 0 else Framing.ofHead head
      let body := framing.body? ended rest
      if body.isNone ∧ !ended then none
      else
        some (.answered ⟨status, head.field? "www-authenticate", body.map Text.Utf8.decodeLossy⟩)

/-! ## Answering for the own pages -/

/-- The method and the target of a request, once its head has arrived. -/
def readTarget? (bytes : List UInt8) : Option (String × String) :=
  (Head.split? bytes).map fun (head, _) =>
    match head.words with
    | method :: target :: _ => (method, target)
    | _ => ("", "")

/-- The words for the status of a page. -/
def reason (status : Nat) : String :=
  if status = 200 then "OK" else if status = 404 then "Not Found" else "Method Not Allowed"

end BeanMeter.HttpMessage

namespace BeanMeter

/-- A request to an agent, after which the connection is to be closed. -/
def AgentRequest.httpText (host : String) (r : AgentRequest) : String :=
  let body := (r.body?.map Json.compact).getD ""
  HttpMessage.headText (
    [r.method ++ " " ++ r.path ++ " HTTP/1.1", "host: " ++ host, "accept: */*",
      "connection: close"] ++
    (r.authorization.map fun c => "authorization: " ++ c.header).toList ++
    if body = "" then []
    else ["content-type: application/json", "content-length: " ++ naturalText body.utf8ByteSize])
    ++ body

/-- An answer with one of the program's own pages, after which the connection is to be closed. -/
def RouteReply.httpText (r : RouteReply) : String :=
  HttpMessage.headText (
    ["HTTP/1.1 " ++ naturalText r.status ++ " " ++ HttpMessage.reason r.status] ++
    (r.contentType.map fun t => "content-type: " ++ t).toList ++
    (r.allow.map fun methods => "allow: " ++ methods).toList ++
    ["content-length: " ++ naturalText r.body.utf8ByteSize, "connection: close"]) ++ r.body

end BeanMeter
