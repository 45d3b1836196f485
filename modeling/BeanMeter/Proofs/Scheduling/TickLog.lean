import BeanMeter.Proofs.Agent.Authorization
import BeanMeter.Scheduling.Scheduler

/-! # Logs of ticks

A log kept beside a scheduler, from nothing but what can be seen of it: what happens to it, whether
it is in a tick, and the requests that it sends.

* `Tick`, `TickLog` — the ticks of a run with all that was said in them.
* `TickLog.record`, `Scheduler.logFrom` — how a log is kept.
* `Tick.completed`, `Tick.emissions` — what a tick comes to, read off the log.
* `Tick.Course` — how far a tick has got, and what the log says of it then.
-/

namespace BeanMeter

/-! ## Ticks -/

/-- The responses in a successful reply to a bulk read. -/
def Reply.responses? (reply : Reply) : Option (List Response) :=
  reply.body.toOption.bind Response.parseBulk?

/-- A tick with all that was said in it. -/
structure Tick where
  /-- The session manager that the tick found. -/
  manager : SessionManager
  /-- The requests that have been answered. -/
  dialogue : Dialogue
  /-- The request that waits for an answer, or did so when the tick was cut off. -/
  asked : Option AgentRequest
  /-- When something happened in the tick for the last time. -/
  moment : Int

namespace Tick

def start (m : SessionManager) (now : Int) : Tick := ⟨m, [], none, now⟩

/-- Something comes back for the request that waits for an answer. -/
def hear (now : Int) (reply : Reply) (t : Tick) : Tick where
  manager := t.manager
  dialogue := t.dialogue ++ (t.asked.map fun request => (request, reply)).toList
  asked := none
  moment := now

/-- What is left of a tick. A tick is one reading step of the session manager that it found. -/
def left (registry : Registry) (files : Files) (t : Tick) :
    Exchange (SessionManager × SessionManager.Outcome) :=
  (t.manager.step files (.read registry.readPlan true)).after (t.dialogue.map (·.2))

/-- Whether the tick has come to its end with results. -/
def completed (registry : Registry) (files : Files) (t : Tick) : Bool :=
  match t.left registry files with
  | .done (_, .results _) => true
  | _ => false

def readReply? (t : Tick) : Option Reply :=
  (t.dialogue.find? fun entry => entry.1.query ≠ .version).map (·.2)

/-- The responses that the tick got; none if there was nothing to read. -/
def responses (t : Tick) : List Response := (t.readReply?.bind Reply.responses?).getD []

def observations (registry : Registry) (t : Tick) : List Observation :=
  registry.observe (ReadResults.ofResponses t.responses) t.moment

/-- What the emitter is to get for the tick. -/
def emissions (registry : Registry) (files : Files) (t : Tick) : List Emission :=
  if t.completed registry files then Emission.ofObservations (t.observations registry) else []

end Tick

/-! ## Logs -/

def Effect.request? (effects : List Effect) : Option AgentRequest :=
  effects.findSome? fun
    | .sent request => some request
    | .emitted _ => none

def Effect.emissions (effects : List Effect) : List Emission :=
  effects.filterMap fun
    | .sent _ => none
    | .emitted e => some e

/-- The ticks of a run. -/
structure TickLog where
  /-- The ticks that have come to their end, in order. -/
  finished : List Tick
  /-- The tick that was cut off. -/
  cut : Option Tick
  /-- The tick in flight. -/
  current : Option Tick

namespace TickLog

def empty : TickLog := ⟨[], none, none⟩

/-- All ticks that have begun, in order. -/
def ticks (log : TickLog) : List Tick := log.finished ++ log.cut.toList ++ log.current.toList

/-- Notes what has become of the tick in flight: it waits for an answer again if the scheduler is
still in a tick, and has come to its end otherwise. -/
def note (t : Tick) (after : Scheduler) (effects : List Effect) (log : TickLog) : TickLog :=
  if after.activity.isTicking then
    { log with current := some { t with asked := Effect.request? effects } }
  else { log with finished := log.finished ++ [t], current := none }

def record (s : Scheduler) (e : Scheduler.Event) (log : TickLog) : TickLog :=
  let (after, effects) := s.step e
  match s.activity, log.current, e with
  | .waiting, _, .fire now => log.note (Tick.start s.manager now) after effects
  | .ticking _ _, some t, .receive now reply => log.note (t.hear now reply) after effects
  | .ticking _ _, some t, .expire =>
    if after.activity.isTicking then log else { log with cut := some t, current := none }
  | _, _, _ => log

end TickLog

/-- The log of a run, after all that is in `log`. -/
def Scheduler.logFrom (s : Scheduler) (log : TickLog) : List Scheduler.Event → TickLog
  | [] => log
  | e :: es => (s.step e).1.logFrom (log.record s e) es

/-! ## Coming by a session -/

/-- What can come of getting a session: a manager that holds it, or the same manager if there was
none and none could be opened. -/
def SessionManager.Gets (m : SessionManager) (result : ConnectResult) : Prop :=
  match result.2 with
  | .ok session => result.1 = { m with session := some session }
  | .error _ => result.1 = m ∧ m.session = none

/-- Getting a session takes nothing but probes. -/
theorem SessionManager.current_probes (m : SessionManager) (files : Files) :
    (m.current files).Keeps (fun request => request.query = .version) m.Gets := by
  unfold current
  cases holds : m.session with
  | some session =>
    have same : m = { m with session := some session } := by rw [← holds]
    exact same
  | none =>
    apply ((m.connector.connect_keeps files).imp fun _ probe => probe.1).map
    intro result _
    cases result with
    | ok session => rfl
    | error e => exact ⟨rfl, holds⟩

theorem SessionManager.free_of_current {m : SessionManager} {files : Files} {said : Dialogue}
    {request : AgentRequest} {resume : Reply → Exchange ConnectResult}
    (reached : (m.current files).Reaches said (.send request resume)) : m.session = none := by
  unfold current at reached
  cases holds : m.session with
  | none => rfl
  | some session =>
    rw [holds] at reached
    cases (Exchange.reaches_of_done reached).2

/-! ## The course of a tick -/

theorem Session.results_of_some {s : Session} {reply : Reply} {responses : List Response}
    (decoded : reply.responses? = some responses) :
    s.results reply = .ok (ReadResults.ofResponses responses) := by
  obtain ⟨body, heard, parsed⟩ := Option.bind_eq_some_iff.mp decoded
  unfold results
  cases found : reply.body with
  | error fault => simp [found, Except.toOption] at heard
  | ok text =>
    rw [found] at heard
    cases heard
    simp [parsed]

theorem Session.results_of_none {s : Session} {reply : Reply}
    (undecoded : reply.responses? = none) : ∃ e, s.results reply = .error e := by
  unfold results
  cases found : reply.body with
  | error fault => exact ⟨_, rfl⟩
  | ok body =>
    simp only [Reply.responses?, found, Except.toOption, Option.bind_some] at undecoded
    exact ⟨.undecodable s.endpoint, by simp only [undecoded]⟩

namespace Tick

variable {registry : Registry} {files : Files} {t : Tick}

/-- How far a tick has got, and the responses that it has come to an end with: `none` while it
waits for a reply, and when no session could be opened or the read failed. -/
inductive Course (registry : Registry) (files : Files) (t : Tick) :
    Option (List Response) → Prop
  | connecting {request : AgentRequest} {resume : Reply → Exchange ConnectResult}
      (reached : (t.manager.current files).Reaches t.dialogue (.send request resume)) :
      Course registry files t none
  | unconnected {m : SessionManager} {e : ConnectionError}
      (reached : (t.manager.current files).Reaches t.dialogue (.done (m, .error e))) :
      Course registry files t none
  | reading {m : SessionManager} {session : Session} (more : registry.readPlan ≠ [])
      (reached : (t.manager.current files).Reaches t.dialogue (.done (m, .ok session))) :
      Course registry files t none
  | idle {m : SessionManager} {session : Session} (empty : registry.readPlan = [])
      (reached : (t.manager.current files).Reaches t.dialogue (.done (m, .ok session))) :
      Course registry files t (some [])
  | answered {m : SessionManager} {session : Session} {probes : Dialogue} {reply : Reply}
      (more : registry.readPlan ≠ [])
      (reached : (t.manager.current files).Reaches probes (.done (m, .ok session)))
      (said : t.dialogue =
        probes ++ [(session.client.request (.bulkRead registry.readPlan), reply)]) :
      Course registry files t reply.responses?

/-- The reply to a bulk read comes after the probes. -/
theorem readReply?_of_current {probes rest : Dialogue} {y : Exchange ConnectResult}
    (reached : (t.manager.current files).Reaches probes y) (said : t.dialogue = probes ++ rest) :
    t.readReply? = (rest.find? fun entry => entry.1.query ≠ .version).map (·.2) := by
  have passed : (probes.find? fun entry => entry.1.query ≠ .version) = none := by
    rw [List.find?_eq_none]
    intro entry member
    have probe := ((t.manager.current_probes files).reached reached).1 entry member
    simp [probe]
  rw [readReply?, said, List.find?_append, passed, Option.none_or]

/-- A tick ends with the responses in the reply to its bulk read. -/
theorem Course.readReply?_eq {ended : Option (List Response)}
    (course : Course registry files t ended) (more : registry.readPlan ≠ []) :
    t.readReply?.bind Reply.responses? = ended := by
  cases course with
  | connecting reached | unconnected reached | reading _ reached =>
    rw [readReply?_of_current reached (List.append_nil _).symm]
    rfl
  | idle empty => exact absurd empty more
  | answered _ reached said =>
    rw [readReply?_of_current reached said]
    simp [AgentClient.request]

/-- What a tick comes to with what its read has come to. -/
def ended (m : SessionManager) :
    Except ReadError ReadResults → SessionManager × SessionManager.Outcome
  | .ok r => (m, .results r)
  | .error e => (m.drop, .failed e)

theorem left_of_connected {m : SessionManager} {session : Session} {probes rest : Dialogue}
    {y : Exchange (Except ReadError ReadResults)}
    (reached : (t.manager.current files).Reaches probes (.done (m, .ok session)))
    (reads : (session.read registry.readPlan).Reaches rest y)
    (said : t.dialogue = probes ++ rest) :
    t.left registry files = y.map (ended m) := by
  have connected : (t.manager.step files (.read registry.readPlan true)).Reaches probes
      ((session.read registry.readPlan).map (ended m)) := reached.andThen _
  rw [left, said]
  exact (connected.trans (reads.map _)).after_eq

theorem Course.completed_eq {ended : Option (List Response)}
    (course : Course registry files t ended) : t.completed registry files = ended.isSome := by
  cases course with
  | @connecting request resume reached =>
    have left : t.left registry files = .send request _ := (reached.andThen _).after_eq
    rw [completed, left]
    rfl
  | @unconnected m e reached =>
    have left : t.left registry files = .done (m, .notConnected e) := (reached.andThen _).after_eq
    rw [completed, left]
    rfl
  | reading more reached =>
    rw [completed, left_of_connected reached .refl (List.append_nil _).symm]
    rw [Session.read, if_neg more]
    rfl
  | idle empty reached =>
    rw [completed, left_of_connected reached .refl (List.append_nil _).symm]
    rw [Session.read, if_pos empty]
    rfl
  | @answered m session probes reply more reached said =>
    have reads : (session.read registry.readPlan).Reaches
        [(session.client.request (.bulkRead registry.readPlan), reply)]
        (.done (session.results reply)) := by
      rw [Session.read, if_neg more]
      exact .step .refl
    rw [completed, left_of_connected reached reads said]
    cases decoded : reply.responses? with
    | some responses =>
      rw [Session.results_of_some decoded]
      rfl
    | none =>
      obtain ⟨e, failed⟩ := Session.results_of_none decoded
      rw [failed]
      rfl

theorem Course.responses_eq {ended : Option (List Response)}
    (course : Course registry files t ended) : t.responses = ended.getD [] := by
  cases course with
  | connecting reached | unconnected reached | reading _ reached | idle _ reached =>
    rw [responses, readReply?_of_current reached (List.append_nil _).symm]
    rfl
  | answered _ reached said =>
    rw [responses, readReply?_of_current reached said]
    simp [AgentClient.request]

theorem Course.observations_eq {responses : List Response} {now : Int}
    (course : Course registry files t (some responses)) (moment : t.moment = now) :
    t.observations registry = registry.observe (ReadResults.ofResponses responses) now := by
  rw [observations, course.responses_eq, moment]
  rfl

end Tick

/-! ## A run -/

namespace Scheduler.Sample

def registry : Registry :=
  ⟨[{ pattern := ⟨"java.lang:type=Threading", "java.lang".toList,
        [("type", "Threading".toList)], false⟩
      attr := "ThreadCount"
      subKey := none
      metric := "jvm.threads"
      unit := none
      description := none
      kind := .gauge
      labels := []
      origin := "builtin"
      rule := 0 }]⟩

def introduction : Reply :=
  .answered ⟨200, none, some "\x7b\"status\":200,\"value\":\x7b\"agent\":\"1.7\"\x7d\x7d"⟩

/-- The value that the registry looks for. -/
def threads : Reply :=
  .answered ⟨200, none, some ("[\x7b\"request\":\x7b\"mbean\":\"java.lang:type=Threading\"," ++
    "\"attribute\":\"ThreadCount\"\x7d,\"status\":200,\"value\":42\x7d]")⟩

/-- A tick that is completed, one that is skipped after a failed read, and one that is cut off while
it waits for the reply to its read. -/
def interrupted : List Event :=
  [.start, .fire 0, .receive 1 introduction, .receive 2 threads,
    .fire 10, .receive 11 (.answered ⟨503, none, some ""⟩),
    .fire 20, .receive 21 introduction, .shutdown, .expire]

def scheduler : Scheduler := new registry (.ofList []) SessionManager.Sample.connector

end Scheduler.Sample

end BeanMeter
