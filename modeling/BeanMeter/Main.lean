import BeanMeter.CommandLine.LogLine
import BeanMeter.CommandLine.Program
import BeanMeter.CommandLine.Usage
import BeanMeter.Host.HttpMessage
import Std.Async.DNS
import Std.Async.Signal
import Std.Async.TCP
import Std.Async.Timer
import Std.Sync.Channel
import Std.Time.DateTime.Timestamp

/-! # The program at work

Files, clock, signals and connections around the pure core. A run has one inbox: what happens
outside is put there, and one loop hands it to the scheduler and does what the scheduler asks for.

* `main` — a run from its command line to its exit code.
-/

namespace BeanMeter.Live

open Std.Async

/-! ## Files -/

/-- Why a file cannot be read. -/
def faultOf : IO.Error → FileFault
  | .noFileOrDirectory .. => .missing
  | .inappropriateType _ code _ => if code = 20 then .notDirectory else .directory
  | .permissionDenied .. => .denied
  | e => .other (toString e)

/-- The content of a file, or why there is none. -/
def readFile (path : String) : IO (String × Except FileFault (List UInt8)) := do
  try
    return (path, .ok (← IO.FS.readBinFile path).toList)
  catch e => return (path, .error (faultOf e))

/-- All bytes of a stream. -/
partial def readStream (stream : IO.FS.Stream) (got : ByteArray) : IO (List UInt8) := do
  let chunk ← stream.read 65536
  if chunk.isEmpty then return got.toList
  else readStream stream (got ++ chunk)

/-- What the environment says in the variables that count. -/
def readEnvironment : IO (String → Option String) := do
  let names := [Arguments.configVariable, Arguments.logLevelVariable, LogFilter.variableName]
  let values ← names.mapM fun name => return (name, ← IO.getEnv name)
  return fun name => (values.lookup name).join

/-- Everything that a run looks at. The property file names further files, so the paths are asked
for a second time. -/
def surroundings (words : List String) : IO Surroundings := do
  let environment ← readEnvironment
  match Arguments.parse environment words with
  | .error _ => return ⟨.ofList [], [], environment⟩
  | .ok args =>
    let stdin ← if args.configFromStdin then readStream (← IO.getStdin) .empty else pure []
    let outside : Surroundings := ⟨.ofList [], stdin, environment⟩
    let first ← (Startup.filePaths outside args).mapM readFile
    let outside := { outside with files := .ofList first }
    let second ← (Startup.filePaths outside args).mapM readFile
    return { outside with files := .ofList second }

/-! ## Clock and log -/

/-- The moment on the clock, in microseconds since the epoch. -/
def now : IO Int := do
  return (← Std.Time.Timestamp.now).toNanosecondsSinceUnixEpoch.toInt / 1000

/-- Waits for so many milliseconds. -/
def pause (milliseconds : Nat) : Async Unit :=
  sleep (Std.Time.Millisecond.Offset.ofNat milliseconds)

/-- Writes an event to the log if the filter lets it pass. -/
def writeLog (filter : LogFilter) (format : LogFormat) (e : LogEntry) : IO Unit := do
  if filter.allows e.target e.level then
    IO.eprintln (e.line format (← now))

/-! ## Connections -/

/-- An address with a port, as the sockets want it. -/
def socketAddress (port : Nat) : Std.Net.IPAddr → Std.Net.SocketAddress
  | .v4 ip => .v4 ⟨ip, port.toUInt16⟩
  | .v6 ip => .v6 ⟨ip, port.toUInt16⟩

/-- An address as the sockets want it. -/
def listenAddress? (a : SocketAddress) : Option Std.Net.SocketAddress :=
  let ip? : Option Std.Net.IPAddr := match a.ip with
    | .v4 _ => (Std.Net.IPv4Addr.ofString a.ip.text).map .v4
    | .v6 _ => (Std.Net.IPv6Addr.ofString a.ip.text).map .v6
  ip?.map (socketAddress a.port)

/-- A connection to the first of several addresses that can be reached. -/
def connectTo? (port : Nat) : List Std.Net.IPAddr → Async (Option TCP.Socket.Client)
  | [] => return none
  | ip :: rest => do
    try
      let client ← TCP.Socket.Client.mk
      client.connect (socketAddress port ip)
      return some client
    catch _ => connectTo? port rest

/-- What arrives on a connection, up to a complete answer or the end. -/
partial def receiveReply (client : TCP.Socket.Client) (got : List UInt8) : Async Reply := do
  match ← client.recv? 65536 with
  | none => return (HttpMessage.readReply? true got).getD .lost
  | some chunk =>
    let got := got ++ chunk.toList
    match HttpMessage.readReply? false got with
    | some reply => return reply
    | none => receiveReply client got

/-- The host of an endpoint, for a look-up. -/
def lookupName (e : Endpoint) : String :=
  String.ofList (e.address.host.toList.filter fun c => c != '[' && c != ']')

/-- Asks an agent over a connection of its own. There are no encrypted connections here: to an
endpoint that wants one, every attempt is lost. -/
def askOver (e : Endpoint) (request : AgentRequest) : Async Reply := do
  if e.isEncrypted then return .lost
  else
    try
      let addresses ← DNS.getAddrInfo (lookupName e) (naturalText e.address.port)
      match ← connectTo? e.address.port addresses.toList with
      | none => return .lost
      | some client =>
        client.send (request.httpText e.name).toUTF8
        receiveReply client []
    catch _ => return .lost

/-- Asks an agent, and waits only as long as a call may take. -/
def ask (c : Connector) (request : AgentRequest) : Async Reply :=
  let _ : Inhabited Reply := ⟨.lost⟩
  Async.race (askOver c.endpoint request) do
    pause c.callTimeoutMs
    return .late

/-! ## A run -/

/-- Something that a run waits for. -/
inductive Happening where
  /-- The next tick is due. -/
  | due
  | replied (reply : Reply)
  | told (signal : StopSignal)
  /-- A tick in flight has been waited for long enough. -/
  | waitedEnough
  deriving Inhabited

/-- What a run works with. -/
structure Run where
  startup : Startup
  inbox : Std.Channel Happening
  log : LogEntry → IO Unit
  /-- What the pages show. -/
  exposed : IO.Ref (SeriesStore × ScrapeStats)

namespace Run

/-- Puts something into the inbox. -/
def post (r : Run) (h : Happening) : BaseIO Unit := r.inbox.sync.send h

/-- Puts something into the inbox as soon as it is there. -/
def postLater (r : Run) (wait : Async Happening) : IO Unit := do
  let waiting : Async Unit := do
    let h ← wait
    r.post h
  discard (Async.toIO waiting)

/-- Watches for a signal. -/
def watch (r : Run) (signal : Signal) (told : StopSignal) : IO Unit := do
  let waiter ← Signal.Waiter.mk signal true
  let arrival ← waiter.wait
  r.postLater do
    discard (await arrival)
    return .told told

/-- Does what the scheduler asks for. -/
def perform (r : Run) : Effect → IO Unit
  | .sent request =>
    r.postLater do return .replied (← ask r.startup.connector request)
  | .emitted e => do
    match r.startup.exporter, e with
    | .logging, .observation o => r.log (.ofObservation o)
    | .logging, _ => pure ()
    | .prometheus, e => r.exposed.modify fun (store, stats) => (store.take e, stats)

/-- Hands something that happens to the scheduler, and does what it asks for. -/
def step (r : Run) (s : Scheduler) (e : Scheduler.Event) : IO Scheduler := do
  let (after, effects) := s.step e
  for entry in LogEntry.ofProgress r.startup.connector.endpoint.name s.stats after.stats do
    r.log entry
  effects.forM r.perform
  r.exposed.modify fun (store, _) => (store, after.stats)
  return after

/-- How long a tick in flight is waited for after a signal, in milliseconds. -/
def graceMs : Nat := 5000

/-- Runs a scheduler until it has stopped. `due` is the moment of the next tick, and `armed` says
that it is being waited for. Ticks that are late begin one after the other. -/
partial def loop (r : Run) (s : Scheduler) (due : Int) (armed : Bool) : IO Unit := do
  if s.state = .stopped then return
  match s.activity, armed with
  | .waiting, false =>
    let left := ((due - (← now)) / 1000).toNat
    r.postLater do
      pause left
      return .due
    r.loop s due true
  | _, _ =>
    match ← r.inbox.sync.recv with
    | .due =>
      let s ← r.step s (.fire (← now))
      r.loop s (due + r.startup.config.intervalMs * 1000) false
    | .replied reply =>
      let s ← r.step s (.receive (← now) reply)
      r.loop s due armed
    | .told signal =>
      (Program.toldToStop signal).forM fun m => r.log (.ofMilestone m)
      r.postLater do
        pause graceMs
        return .waitedEnough
      let s ← r.step s .shutdown
      r.loop s due armed
    | .waitedEnough =>
      let s ← r.step s .expire
      r.loop s due armed

end Run

/-! ## The own pages -/

/-- What arrives on a connection, up to the end of a head. -/
partial def receiveTarget (client : TCP.Socket.Client) (got : List UInt8) :
    Async (Option (String × String)) := do
  match ← client.recv? 4096 with
  | none => return none
  | some chunk =>
    let got := got ++ chunk.toList
    match HttpMessage.readTarget? got with
    | some target => return some target
    | none => receiveTarget client got

/-- Answers one request for a page. -/
def answerPage (r : Run) (client : TCP.Socket.Client) : Async Unit := do
  if let some (method, target) ← receiveTarget client [] then
    let (store, stats) ← r.exposed.get
    let reply := Routes.respond (store.render (some stats)) method target
    client.send reply.httpText.toUTF8
    client.shutdown

/-- Answers requests for pages as they come. -/
partial def serve (r : Run) (server : TCP.Socket.Server) : Async Unit := do
  let client ← server.accept
  background (answerPage r client)
  serve r server

/-- Why there can be no listener, in the words of the operating system. -/
def listenFault : IO.Error → String
  | .resourceBusy .. => "Address already in use (os error 98)"
  | .unsupportedOperation .. => "Cannot assign requested address (os error 99)"
  | .permissionDenied .. => "Permission denied (os error 13)"
  | e => toString e

/-- A listener at an address, or why there can be none. -/
def listenAt (a : SocketAddress) : IO (Except String TCP.Socket.Server) := do
  match listenAddress? a with
  | none => return .error "invalid address"
  | some address =>
    try
      let server ← TCP.Socket.Server.mk
      server.bind address
      server.listen 1024
      return .ok server
    catch e => return .error (listenFault e)

/-! ## From the command line on -/

/-- What is said about a document that does not parse. -/
def detail : String := "the content is not well-formed"

/-- The listener for the pages of a run, if it has any. -/
def listenFor (b : Beginning) : IO (Option (Except String TCP.Socket.Server)) := do
  match b with
  | .polls ⟨config, .prometheus, _, _⟩ =>
    match config.exporter.bindAddress with
    | .ok address => return some (← listenAt address)
    | .error _ => return none
  | _ => return none

/-- Polls the agent until the run is told to stop. -/
def poll (startup : Startup) (files : Files) (log : LogEntry → IO Unit)
    (server : Option TCP.Socket.Server) : IO Unit := do
  let scheduler := Scheduler.new startup.registry files startup.connector
  let r : Run :=
    ⟨startup, ← Std.Channel.new, log, ← IO.mkRef (SeriesStore.empty, scheduler.stats)⟩
  r.watch .sigint .interrupt
  r.watch .sigterm .terminate
  if let some server := server then
    discard (Async.toIO (serve r server))
  let s ← r.step scheduler .start
  r.loop s (← now) false
  Program.ending.forM fun m => log (.ofMilestone m)

/-- A run from its command line to its exit code. -/
def run (words : List String) : IO UInt32 := do
  let around ← surroundings words
  let (attempt, _) := Program.begin around (fun _ => none) words
  let listener ← listenFor attempt
  -- Only now is it known whether the address can be used.
  let fault := match listener with
    | some (.error reason) => some reason
    | _ => none
  let (beginning, milestones) := Program.begin around (fun _ => fault) words
  let log : LogEntry → IO Unit :=
    match Arguments.parse around.environment words, Program.logFilter around words with
    | .ok args, some filter => writeLog filter args.logFormat
    | _, _ => fun _ => pure ()
  milestones.forM fun m => log (.ofMilestone m)
  match beginning with
  | .refused .help => IO.print Usage.help
  | .refused .version | .reported _ => IO.print (Program.output beginning)
  | .refused fault => IO.eprint fault.report
  | .failed fault =>
    log (.ofFailure (fault.message detail))
    ((Program.errorLine? detail beginning).toList).forM fun line => IO.eprintln line
  | .polls startup => poll startup around.files log (listener.bind Except.toOption)
  return (Program.exitCode beginning).toUInt32

end BeanMeter.Live

/-- A run from its command line to its exit code. -/
def main (args : List String) : IO UInt32 := BeanMeter.Live.run args
