import BeanMeter.Proofs.Agent.Opening

/-! # Admission

What an agent has to reply for a session to be opened over the plain transport.

* `Connector.Admits` — the replies with which an agent admits a connector.
* `Connector.Admits.reaches` — with these an attempt to connect ends in a session.
-/

namespace BeanMeter

namespace Connector

/-- Replies to probes with which an agent lets a session be opened: it makes itself known at once,
or after a refusal that can be answered. -/
inductive Admits (c : Connector) (info : AgentInfo) : List Reply → Prop
  | atOnce {reply : Reply} (introduces : reply.Introduces info) : Admits c info [reply]
  | answered {first second : Reply} (answerable : c.CanAnswer first)
      (introduces : second.Introduces info) : Admits c info [first, second]

theorem opened_of_introduces {c : Connector} (client : AgentClient) {reply : Reply}
    {info : AgentInfo} (introduces : reply.Introduces info) :
    ∃ body, reply.body = .ok body ∧ c.opened client body = .ok ⟨client, c.endpoint.name, info⟩ := by
  obtain ⟨body, heard, probed⟩ := Reply.introduces_iff.mp introduces
  exact ⟨body, heard, by rw [opened, probed]⟩

/-- What an attempt to connect makes of the reply to its first probe. -/
theorem connect_eq_send {c : Connector} (plain : c.endpoint.transport = .plain)
    (files : Files) : ∃ (client : AgentClient) (resume : _),
      c.connect files = .send (client.request .version) resume ∧
        (∀ reply body, reply.body = .ok body → resume reply = .done (c.opened client body)) ∧
        ∀ reply, c.CanAnswer reply → ∃ client', resume reply = c.probeAgain client' := by
  obtain ⟨client, made⟩ := exists_preflight_plain plain files
  simp only [connect, made]
  refine ⟨_, _, rfl, ?_, ?_⟩
  · intro reply body heard
    simp only [heard]
  · intro reply answerable
    have refusal := answerable
    obtain ⟨a, rfl, status, _⟩ := refusal
    have refused : (Reply.answered a).body = .error (.unauthorized a.challenge) :=
      Reply.body_eq_unauthorized_iff.mpr ⟨a, rfl, status, rfl⟩
    obtain ⟨handler, credentials, handled, answered⟩ := (canAnswer_iff refused).mp answerable
    simp only [refused, handled, answered]
    exact ⟨_, rfl⟩

theorem Admits.reaches {c : Connector} {info : AgentInfo} {replies : List Reply}
    (admits : c.Admits info replies) (plain : c.endpoint.transport = .plain) (files : Files) :
    ∃ (said : Dialogue) (session : Session), said.map (·.2) = replies ∧ session.agent = info ∧
      (c.connect files).Reaches said (.done (.ok session)) := by
  obtain ⟨client, resume, connects, opens, again⟩ := connect_eq_send plain files
  rw [connects]
  cases admits with
  | @atOnce reply introduces =>
    obtain ⟨body, heard, opened⟩ := opened_of_introduces (c := c) client introduces
    have ends : (resume reply).Reaches [] (.done (.ok ⟨client, c.endpoint.name, info⟩)) := by
      rw [opens reply body heard, opened]
      exact .refl
    exact ⟨_, _, rfl, rfl, .step ends⟩
  | @answered first second answerable introduces =>
    obtain ⟨client', resumes⟩ := again first answerable
    obtain ⟨body, heard, opened⟩ := opened_of_introduces (c := c) client' introduces
    have ends : (resume first).Reaches [(client'.request .version, second)]
        (.done (.ok ⟨client', c.endpoint.name, info⟩)) := by
      rw [resumes, probeAgain]
      refine .step ?_
      simp only [heard, opened]
      exact .refl
    exact ⟨_, _, rfl, rfl, .step ends⟩

end Connector

theorem SessionManager.reaches_of_admits {m : SessionManager} {info : AgentInfo}
    {replies : List Reply} (free : m.session = none)
    (plain : m.connector.endpoint.transport = .plain) (admits : m.connector.Admits info replies)
    (files : Files) :
    ∃ (said : Dialogue) (session : Session), said.map (·.2) = replies ∧ session.agent = info ∧
      (m.current files).Reaches said (.done ({ m with session := some session }, .ok session)) := by
  obtain ⟨said, session, heard, agent, reached⟩ := admits.reaches plain files
  refine ⟨said, session, heard, agent, ?_⟩
  rw [current, free]
  exact reached.map _

end BeanMeter
