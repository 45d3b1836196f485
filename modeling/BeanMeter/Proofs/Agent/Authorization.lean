import BeanMeter.Proofs.Agent.Opening
import BeanMeter.Proofs.Agent.Turn

/-! # Who asks

Every request of a session manager carries the configured identity, and nothing else ever gets into
its place: credentials reach a request when the client is made, when a challenge is answered and
when a session that is held is used again.

* `SessionManager.Authorized` — the invariant of a run.
* `SessionManager.requests_carry_configured_credentials` — the result for all runs.
-/

namespace BeanMeter

namespace Connector

/-- The answer to a challenge is what the first probe carried already. -/
theorem credentials?_of_answered {c : Connector} {handler : CallbackHandler}
    {challenge : Option String} {credentials : Credentials}
    (handled : c.endpoint.handler? = some handler)
    (answered : answerChallenge c.endpoint.name handler challenge = .ok credentials) :
    c.endpoint.credentials? = some credentials := by
  obtain ⟨profile, _, rfl⟩ := Option.map_eq_some_iff.mp handled
  rw [answerChallenge_eq] at answered
  split at answered
  · unfold Endpoint.credentials?
    cases username : c.endpoint.username <;> cases password : c.endpoint.password <;>
      simp_all
  · cases answered

theorem client_of_opened {c : Connector} {client : AgentClient} {body : String} {s : Session}
    (success : c.opened client body = .ok s) : s.client = client := by
  unfold opened at success
  split at success
  · cases success
    rfl
  · cases success

/-- The identity of a connector, as a property of requests. -/
def Signs (c : Connector) (request : AgentRequest) : Prop :=
  request.authorization = c.endpoint.credentials?

/-- A probe for the agent's version with the identity of a connector. -/
def Probes (c : Connector) (request : AgentRequest) : Prop :=
  request.query = .version ∧ c.Signs request

/-- The identity of a connector, as a property of sessions. -/
def Owns (c : Connector) (s : Session) : Prop :=
  s.client.authorization = c.endpoint.credentials?

/-- The identity of a connector, as a property of attempts to connect. -/
def Grants (c : Connector) (result : Except ConnectionError Session) : Prop :=
  ∀ s, result = .ok s → c.Owns s

theorem grants_error (c : Connector) (e : ConnectionError) : c.Grants (.error e) :=
  fun _ success => nomatch success

theorem grants_opened {c : Connector} {client : AgentClient}
    (signed : client.authorization = c.endpoint.credentials?) (body : String) :
    c.Grants (c.opened client body) := by
  intro s success
  rw [Owns, client_of_opened success]
  exact signed

theorem probeAgain_keeps {c : Connector} {client : AgentClient}
    (signed : client.authorization = c.endpoint.credentials?) :
    (c.probeAgain client).Keeps c.Probes c.Grants := by
  refine ⟨⟨rfl, signed⟩, fun reply => ?_⟩
  dsimp only
  cases reply.body with
  | ok body => exact grants_opened signed body
  | error fault => exact c.grants_error _

theorem connect_keeps (c : Connector) (files : Files) :
    (c.connect files).Keeps c.Probes c.Grants := by
  unfold connect
  cases c.preflight files with
  | error e => exact c.grants_error e
  | ok client =>
    refine ⟨⟨rfl, rfl⟩, fun reply => ?_⟩
    dsimp only
    cases reply.body with
    | ok body => exact grants_opened rfl body
    | error fault =>
      cases fault with
      | unauthorized challenge =>
        dsimp only
        cases handled : c.endpoint.handler? with
        | none => exact c.grants_error _
        | some handler =>
          dsimp only
          cases answered : answerChallenge c.endpoint.name handler challenge with
          | error e => exact c.grants_error e
          | ok credentials =>
            exact probeAgain_keeps (credentials?_of_answered handled answered).symm
      | transport | timeout | status code => exact c.grants_error _

end Connector

namespace SessionManager

/-- A manager whose session, if it holds one, carries the identity of the connector. -/
structure Authorized (c : Connector) (m : SessionManager) : Prop where
  connector : m.connector = c
  session : ∀ s, m.session = some s → c.Owns s

theorem authorized_new (c : Connector) : Authorized c (new c) where
  connector := rfl
  session := fun _ held => nomatch held

theorem Authorized.drop {c : Connector} {m : SessionManager} (h : Authorized c m) :
    Authorized c m.drop where
  connector := h.connector
  session := fun _ held => nomatch held

theorem Authorized.current_keeps {c : Connector} {m : SessionManager} (h : Authorized c m)
    (files : Files) : (m.current files).Keeps c.Signs
      (fun result => Authorized c result.1 ∧ c.Grants result.2) := by
  unfold current
  cases held : m.session with
  | some s =>
    refine ⟨h, fun _ same => ?_⟩
    cases same
    exact h.session s held
  | none =>
    rw [h.connector]
    apply ((c.connect_keeps files).imp fun _ probe => probe.2).map
    intro result owned
    cases result with
    | ok s =>
      refine ⟨⟨rfl, fun _ same => ?_⟩, owned⟩
      cases same
      exact owned s rfl
    | error e => exact ⟨h, owned⟩

theorem read_keeps {c : Connector} {s : Session} (owned : c.Owns s)
    (requests : List ReadRequest) : (s.read requests).Keeps c.Signs (fun _ => True) := by
  unfold Session.read
  split
  · trivial
  · exact ⟨owned, fun _ => trivial⟩

/-- In one step every request carries the identity of the connector, and so does the session that
is held afterwards. -/
theorem Authorized.step_keeps {c : Connector} {m : SessionManager} (h : Authorized c m)
    (files : Files) (step : Step) :
    (m.step files step).Keeps c.Signs (fun result => Authorized c result.1) := by
  cases step with
  | connect =>
    apply (h.current_keeps files).map
    rintro ⟨m', result⟩ ⟨kept, _⟩
    cases result <;> exact kept
  | read requests invalidate =>
    apply (h.current_keeps files).andThen
    rintro ⟨m', result⟩ ⟨kept, owned⟩
    cases result with
    | error e => exact kept
    | ok s =>
      apply (read_keeps (owned s rfl) requests).map
      intro results _
      cases results with
      | ok r => exact kept
      | error e =>
        cases invalidate
        · exact kept
        · exact kept.drop
  | invalidate => exact h.drop
  | close => exact h.drop

theorem Authorized.turn {c : Connector} {t : Turn} (taken : t.Taken)
    (h : Authorized c t.before) :
    (∀ entry ∈ t.dialogue, c.Signs entry.1) ∧ Authorized c t.after :=
  (h.step_keeps t.files t.step).reached taken

/-- Every request that is ever sent carries exactly the configured user name and password if both
are configured, and no credentials at all otherwise. -/
theorem requests_carry_configured_credentials (c : Connector) (agent : Agent)
    (steps : List (Files × Step)) :
    ∀ t ∈ (new c).turns agent [] steps, ∀ entry ∈ t.dialogue,
      entry.1.authorization =
        match c.endpoint.username, c.endpoint.password with
        | some username, some password => some ⟨username, password⟩
        | _, _ => none :=
  turns_forall (Authorized c) (fun _ taken inv => inv.turn taken) agent steps (authorized_new c)

theorem sample_read_carries_credentials :
    ∃ t ∈ Sample.turns, ∃ entry ∈ t.dialogue, entry.1.query = .bulkRead Sample.requests ∧
      entry.1.authorization = some ⟨"monitor", "secret"⟩ := by
  have turn := List.get_mem Sample.turns ⟨1, by decide +kernel⟩
  have entry := List.get_mem (Sample.turns.get ⟨1, by decide +kernel⟩).dialogue
    ⟨0, by decide +kernel⟩
  have carried := requests_carry_configured_credentials Sample.connector Sample.agent
    Sample.steps _ turn _ entry
  exact ⟨_, turn, _, entry, by decide +kernel, carried⟩

end SessionManager

end BeanMeter
