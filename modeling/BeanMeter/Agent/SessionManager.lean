import BeanMeter.Agent.Connection

/-! # Session manager

Holds at most one session. It connects when a session is needed and none is held, and keeps the
session until it is told to drop it.

* `SessionManager.current` — the held session, or a new one.
* `SessionManager.step` — one step of a sequence: connect, read, invalidate or close.
-/

namespace BeanMeter

/-- At most one session with an endpoint. -/
structure SessionManager where
  connector : Connector
  session : Option Session
  deriving DecidableEq, Repr

namespace SessionManager

/-- A manager that holds no session. -/
def new (c : Connector) : SessionManager := ⟨c, none⟩

/-- The held session, or a new one, with the manager that holds it. If connecting fails, no session
is held. -/
def current (m : SessionManager) (files : Files) :
    Exchange (SessionManager × Except ConnectionError Session) :=
  match m.session with
  | some s => .done (m, .ok s)
  | none =>
    (m.connector.connect files).map fun result =>
      match result with
      | .ok s => ({ m with session := some s }, .ok s)
      | .error e => (m, .error e)

/-- Drops the held session. -/
def drop (m : SessionManager) : SessionManager := { m with session := none }

/-- What can be asked of a manager. -/
inductive Step where
  | connect
  /-- Reads attributes; a failed read drops the session if `invalidate` is set. -/
  | read (requests : List ReadRequest) (invalidate : Bool)
  | invalidate
  | close
  deriving DecidableEq, Repr

/-- What comes of a step. -/
inductive Outcome where
  | connected (s : Session)
  | notConnected (e : ConnectionError)
  | results (r : ReadResults)
  | failed (e : ReadError)
  | nothing

/-- One step of a sequence. -/
def step (m : SessionManager) (files : Files) : Step → Exchange (SessionManager × Outcome)
  | .connect =>
    (m.current files).map fun (m, result) =>
      match result with
      | .ok s => (m, .connected s)
      | .error e => (m, .notConnected e)
  | .read requests invalidate =>
    (m.current files).andThen fun (m, result) =>
      match result with
      | .error e => .done (m, .notConnected e)
      | .ok s =>
        (s.read requests).map fun result =>
          match result with
          | .ok r => (m, .results r)
          | .error e => (if invalidate then m.drop else m, .failed e)
  | .invalidate | .close => .done (m.drop, .nothing)

end SessionManager

end BeanMeter
