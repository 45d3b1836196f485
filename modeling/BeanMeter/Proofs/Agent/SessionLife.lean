import BeanMeter.Proofs.Agent.Opening
import BeanMeter.Proofs.Agent.Turn

/-! # The life of a session

What each kind of step does with the session that a manager holds, over the plain transport and
against any agent.

* `SessionManager.Acquisition` — how a step comes by a session.
* `SessionManager.Reading` — what a read does with it.
* `SessionManager.Turn.InLifeCycle` — the rule for a whole turn.
* `SessionManager.session_life_cycle` — every turn of every run follows the rule.
-/

namespace BeanMeter.SessionManager

/-! ## Coming by a session -/

/-- How a step comes by a session: the one that is held is used as it is, and without one there is
an attempt to open one. -/
structure Acquisition (c : Connector) (m : SessionManager) (probes : Dialogue)
    (session : Option Session) : Prop where
  held : ∀ s, m.session = some s → probes = [] ∧ session = some s
  opened : m.session = none → c.Opening probes session

theorem acquisition_of_current {m m' : SessionManager} {files : Files} {said : Dialogue}
    {result : Except ConnectionError Session} (plain : m.connector.endpoint.transport = .plain)
    (reached : (m.current files).Reaches said (.done (m', result))) :
    Acquisition m.connector m said result.toOption ∧ m'.session = result.toOption ∧
      m'.connector = m.connector := by
  unfold current at reached
  cases holds : m.session with
  | some s =>
    rw [holds] at reached
    obtain ⟨rfl, same⟩ := Exchange.reaches_of_done reached
    cases same
    refine ⟨⟨fun s' held => ?_, fun free => by simp [holds] at free⟩, holds, rfl⟩
    rw [holds] at held
    exact ⟨rfl, held⟩
  | none =>
    rw [holds] at reached
    obtain ⟨attempt, same, connected⟩ := Exchange.done_of_map reached
    have opening := Connector.opening_of_connect plain connected
    cases attempt with
    | ok s =>
      cases same
      exact ⟨⟨fun s' held => by simp [holds] at held, fun _ => opening⟩, rfl, rfl⟩
    | error e =>
      cases same
      exact ⟨⟨fun s' held => by simp [holds] at held, fun _ => opening⟩, holds, rfl⟩

/-! ## Reading in a session -/

/-- What a read does with a session: one request if there is anything to read, and nothing more
whatever comes of it. Only a read that is to invalidate drops the session, and only by failing. -/
structure Reading (requests : List ReadRequest) (invalidate : Bool) (s : Session)
    (posts : Dialogue) (outcome : Outcome) (m : SessionManager) : Prop where
  asked : posts.map (·.1) =
    if requests = [] then [] else [s.client.request (.bulkRead requests)]
  ended : (∃ r, outcome = .results r ∧ m.session = some s) ∨
    ∃ e, outcome = .failed e ∧ m.session = if invalidate then none else some s

theorem asked_of_read {s : Session} {requests : List ReadRequest} {said : Dialogue}
    {result : Except ReadError ReadResults}
    (reached : (s.read requests).Reaches said (.done result)) :
    said.map (·.1) = if requests = [] then [] else [s.client.request (.bulkRead requests)] := by
  unfold Session.read at reached
  split at reached
  · next empty =>
    obtain ⟨rfl, _⟩ := Exchange.reaches_of_done reached
    simp [empty]
  · next more =>
    obtain ⟨reply, rest, rfl, resumed⟩ := Exchange.done_of_send reached
    obtain ⟨rfl, _⟩ := Exchange.reaches_of_done resumed
    simp [more]

/-! ## Turns -/

/-- The rule for one turn of a manager whose sessions are opened by `c`. -/
def Turn.InLifeCycle (c : Connector) (t : Turn) : Prop :=
  match t.step with
  | .connect =>
    ∃ session, Acquisition c t.before t.dialogue session ∧ t.after.session = session ∧
      (∀ s, session = some s → t.outcome = .connected s) ∧
      (session = none → ∃ e, t.outcome = .notConnected e)
  | .read requests invalidate =>
    ∃ probes posts session, t.dialogue = probes ++ posts ∧
      Acquisition c t.before probes session ∧
      (∀ s, session = some s → Reading requests invalidate s posts t.outcome t.after) ∧
      (session = none →
        posts = [] ∧ t.after.session = none ∧ ∃ e, t.outcome = .notConnected e)
  | .invalidate | .close => t.dialogue = [] ∧ t.after.session = none

theorem Turn.Taken.connects {c : Connector} {m m' : SessionManager} {files : Files}
    {said : Dialogue} {outcome : Outcome} (plain : c.endpoint.transport = .plain)
    (opens : m.connector = c) (taken : Turn.Taken ⟨m, files, .connect, said, outcome, m'⟩) :
    Turn.InLifeCycle c ⟨m, files, .connect, said, outcome, m'⟩ ∧ m'.connector = c := by
  subst opens
  obtain ⟨⟨held, result⟩, same, reached⟩ := Exchange.done_of_map taken
  obtain ⟨acquired, holds, opens⟩ := acquisition_of_current plain reached
  cases result with
  | ok s =>
    cases same
    exact ⟨⟨some s, acquired, holds, by simp, by simp⟩, opens⟩
  | error e =>
    cases same
    exact ⟨⟨none, acquired, holds, by simp, by simp⟩, opens⟩

theorem Turn.Taken.reads {c : Connector} {m m' : SessionManager} {files : Files}
    {requests : List ReadRequest} {invalidate : Bool} {said : Dialogue} {outcome : Outcome}
    (plain : c.endpoint.transport = .plain) (opens : m.connector = c)
    (taken : Turn.Taken ⟨m, files, .read requests invalidate, said, outcome, m'⟩) :
    Turn.InLifeCycle c ⟨m, files, .read requests invalidate, said, outcome, m'⟩ ∧
      m'.connector = c := by
  subst opens
  obtain ⟨probes, posts, ⟨held, result⟩, rfl, reached, resumed⟩ := Exchange.done_of_andThen taken
  obtain ⟨acquired, holds, opens⟩ := acquisition_of_current plain reached
  cases result with
  | error e =>
    obtain ⟨rfl, same⟩ := Exchange.reaches_of_done resumed
    cases same
    exact ⟨⟨probes, [], none, rfl, acquired, by simp, fun _ => ⟨rfl, holds, e, rfl⟩⟩, opens⟩
  | ok s =>
    obtain ⟨results, same, reads⟩ := Exchange.done_of_map resumed
    have asked := asked_of_read reads
    cases results with
    | ok r =>
      cases same
      refine ⟨⟨probes, posts, some s, rfl, acquired, fun _ used => ?_, by simp⟩, opens⟩
      cases used
      exact ⟨asked, .inl ⟨r, rfl, holds⟩⟩
    | error e =>
      cases same
      refine ⟨⟨probes, posts, some s, rfl, acquired, fun _ used => ?_, by simp⟩, ?_⟩
      · cases used
        refine ⟨asked, .inr ⟨e, rfl, ?_⟩⟩
        cases invalidate
        · exact holds
        · rfl
      · cases invalidate <;> exact opens

theorem Turn.Taken.inLifeCycle {c : Connector} {t : Turn} (taken : t.Taken)
    (plain : c.endpoint.transport = .plain) (opens : t.before.connector = c) :
    t.InLifeCycle c ∧ t.after.connector = c := by
  obtain ⟨m, files, step, said, outcome, m'⟩ := t
  cases step with
  | connect => exact Turn.Taken.connects plain opens taken
  | read requests invalidate => exact Turn.Taken.reads plain opens taken
  | invalidate | close =>
    have dropped : (Exchange.done (m.drop, Outcome.nothing)).Reaches said (.done (m', outcome)) :=
      taken
    obtain ⟨rfl, same⟩ := Exchange.reaches_of_done dropped
    cases same
    exact ⟨⟨rfl, rfl⟩, opens⟩

/-- Over the plain transport every turn of every run follows the rule, whatever the agent does. -/
theorem session_life_cycle (c : Connector) (plain : c.endpoint.transport = .plain) (agent : Agent)
    (steps : List (Files × Step)) :
    ∀ t ∈ (new c).turns agent [] steps, t.InLifeCycle c :=
  turns_forall (fun m => m.connector = c) (fun _ taken opens => taken.inLifeCycle plain opens)
    agent steps rfl

/-- The failed read that is to invalidate is the one that drops the session of the run. -/
theorem sample_life_cycle :
    Sample.connector.endpoint.transport = .plain ∧
      Sample.turns.map (fun t => (t.dialogue.length, t.after.session.isSome)) =
        [(2, true), (1, true), (0, true), (1, false), (1, false), (0, false)] ∧
      ∃ t ∈ Sample.turns, t.step = .read Sample.requests true ∧
        t.InLifeCycle Sample.connector := by
  obtain ⟨t, turn, step⟩ : ∃ t ∈ Sample.turns, t.step = .read Sample.requests true :=
    ⟨_, List.get_mem Sample.turns ⟨3, by decide +kernel⟩, by decide +kernel⟩
  have follows := session_life_cycle Sample.connector rfl Sample.agent Sample.steps t turn
  exact ⟨rfl, by decide +kernel, t, turn, step, follows⟩

end BeanMeter.SessionManager
