import BeanMeter.Agent.SessionManager
import BeanMeter.Proofs.Agent.Dialogue

/-! # Opening sessions

What it takes to open a session over the plain transport, said in terms of the probes that were
sent and the replies to them.

* `Reply.Introduces` — a reply by which an agent makes itself known.
* `Connector.CanAnswer` — a refusal that a second probe answers.
* `Connector.Opening` — the probes and the session that comes of them.
* `Connector.opening_of_connect` — every connection attempt is such an opening.
-/

namespace BeanMeter

/-! ## Replies to probes -/

/-- A reply by which an agent makes itself known: it succeeds, and its body is a response of status
200 whose value gives the version of the agent as a text. -/
def Reply.Introduces (reply : Reply) (info : AgentInfo) : Prop :=
  ∃ (a : Answer) (body : String) (response : Response) (value : Json),
    reply = .answered a ∧ (200 ≤ a.status ∧ a.status < 300) ∧ a.body = some body ∧
      Response.parse? body = some response ∧ response.status = 200 ∧
      response.value = some value ∧ value.field? "agent" = some (.str info.agent) ∧
      info.protocol = (value.field? "protocol").bind Json.text?

theorem Json.text?_eq_some_iff {v : Json} {s : String} : v.text? = some s ↔ v = .str s := by
  cases v <;> simp [Json.text?]

theorem AgentInfo.ofResponse_eq_ok_iff {response : Response} {info : AgentInfo} :
    AgentInfo.ofResponse response = .ok info ↔ response.status = 200 ∧ ∃ value,
      response.value = some value ∧ value.field? "agent" = some (.str info.agent) ∧
        info.protocol = (value.field? "protocol").bind Json.text? := by
  unfold AgentInfo.ofResponse
  by_cases status : response.status = 200
  · cases response.value with
    | none => simp [status]
    | some value =>
      cases found : (value.field? "agent").bind Json.text? with
      | none =>
        simp only [status, ne_eq, not_true_eq_false, if_false, found, reduceCtorEq, false_iff]
        rintro ⟨_, _, same, agent, _⟩
        cases same
        simp [agent, Json.text?] at found
      | some agent =>
        obtain ⟨field, named, text⟩ := Option.bind_eq_some_iff.mp found
        rw [Json.text?_eq_some_iff] at text
        subst text
        obtain ⟨infoAgent, infoProtocol⟩ := info
        simp [status, named, Json.text?, eq_comm]
  · simp [status]

theorem Reply.body_eq_ok_iff {reply : Reply} {body : String} :
    reply.body = .ok body ↔ ∃ a, reply = .answered a ∧ (200 ≤ a.status ∧ a.status < 300) ∧
      a.body = some body := by
  cases reply with
  | lost => simp [Reply.body]
  | late => simp [Reply.body]
  | answered a =>
    simp only [Reply.body, isSuccess, Bool.and_eq_true, decide_eq_true_eq, Reply.answered.injEq,
      exists_eq_left']
    by_cases refused : a.status = 401
    · simp [refused]
    · by_cases success : 200 ≤ a.status ∧ a.status < 300
      · cases a.body <;> simp [refused, success]
      · simp [refused, success]

theorem Reply.introduces_iff {reply : Reply} {info : AgentInfo} :
    reply.Introduces info ↔ ∃ body, reply.body = .ok body ∧ AgentInfo.ofProbe body = .ok info := by
  simp only [Reply.body_eq_ok_iff, AgentInfo.ofProbe]
  constructor
  · rintro ⟨a, body, response, value, rfl, success, arrived, parsed, status, rest⟩
    refine ⟨body, ⟨a, rfl, success, arrived⟩, ?_⟩
    rw [parsed]
    exact AgentInfo.ofResponse_eq_ok_iff.mpr ⟨status, value, rest⟩
  · rintro ⟨body, ⟨a, rfl, success, arrived⟩, probed⟩
    cases parsed : Response.parse? body with
    | none => simp [parsed] at probed
    | some response =>
      rw [parsed] at probed
      obtain ⟨status, value, rest⟩ := AgentInfo.ofResponse_eq_ok_iff.mp probed
      exact ⟨a, body, response, value, rfl, success, arrived, parsed, status, rest⟩

theorem Reply.body_eq_unauthorized_iff {reply : Reply} {challenge : Option String} :
    reply.body = .error (.unauthorized challenge) ↔
      ∃ a, reply = .answered a ∧ a.status = 401 ∧ a.challenge = challenge := by
  cases reply with
  | lost => simp [Reply.body]
  | late => simp [Reply.body]
  | answered a =>
    simp only [Reply.body, Reply.answered.injEq, exists_eq_left']
    by_cases refused : a.status = 401
    · simp [refused]
    · by_cases success : isSuccess a.status = true
      · cases a.body <;> simp [refused, success]
      · simp [refused, success]

namespace Connector

/-! ## Challenges -/

/-- Answering a challenge comes to the configured credentials or to nothing: the realm, offered or
configured, has no part in it. -/
theorem answerChallenge_eq (endpoint : String) (handler : CallbackHandler)
    (challenge : Option String) :
    answerChallenge endpoint handler challenge =
      if (Challenge.parse (challenge.getD "Basic")).isBasic then
        match handler.username, handler.password with
        | some username, some password => .ok ⟨username, password⟩
        | _, _ => .error (.authenticationFailed endpoint)
      else
        .error (.unsupportedCallback endpoint
          ((Challenge.parse (challenge.getD "Basic")).scheme ++ " challenge")) := by
  unfold answerChallenge Challenge.callbacks
  by_cases basic : (Challenge.parse (challenge.getD "Basic")).isBasic = true
  · obtain ⟨username, password, realm⟩ := handler
    cases username <;> cases password <;>
      simp [basic, CallbackHandler.handle, CallbackHandler.answer?, answered]
  · simp [basic, CallbackHandler.handle]

/-- A refusal that a second probe answers: an identity for the configured profile is there in full,
and the challenge, if the refusal carries one, is of the basic scheme. -/
def CanAnswer (c : Connector) (reply : Reply) : Prop :=
  ∃ a : Answer, reply = .answered a ∧ a.status = 401 ∧ c.endpoint.profile.isSome ∧
    c.endpoint.username.isSome ∧ c.endpoint.password.isSome ∧
    ∀ header, a.challenge = some header → (Challenge.parse header).isBasic

/-- Without a challenge one of the basic scheme is assumed. -/
theorem assumed_isBasic_iff {challenge : Option String} :
    (Challenge.parse (challenge.getD "Basic")).isBasic = true ↔
      ∀ header, challenge = some header → (Challenge.parse header).isBasic = true := by
  cases challenge with
  | none =>
    have basic : (Challenge.parse "Basic").isBasic = true := by decide +kernel
    simp [basic]
  | some header => simp

/-- A handler and an answer to a challenge are there exactly for a refusal that can be answered. -/
theorem canAnswer_iff {c : Connector} {reply : Reply} {challenge : Option String}
    (refused : reply.body = .error (.unauthorized challenge)) :
    c.CanAnswer reply ↔ ∃ handler credentials, c.endpoint.handler? = some handler ∧
      answerChallenge c.endpoint.name handler challenge = .ok credentials := by
  obtain ⟨a, rfl, status, rfl⟩ := Reply.body_eq_unauthorized_iff.mp refused
  simp only [CanAnswer, Reply.answered.injEq, exists_eq_left', status, true_and,
    ← assumed_isBasic_iff, Endpoint.handler?, answerChallenge_eq]
  cases c.endpoint.profile with
  | none => simp
  | some profile =>
    by_cases basic : (Challenge.parse (a.challenge.getD "Basic")).isBasic = true
    · cases c.endpoint.username <;> cases c.endpoint.password <;> simp [basic]
    · simp [basic]

/-- A reply that is no refusal cannot be answered. -/
theorem not_canAnswer {c : Connector} {reply : Reply}
    (other : ∀ challenge, reply.body ≠ .error (.unauthorized challenge)) :
    ¬ c.CanAnswer reply := by
  rintro ⟨a, rfl, status, _⟩
  exact other a.challenge (Reply.body_eq_unauthorized_iff.mpr ⟨a, rfl, status, rfl⟩)

/-! ## Attempts to connect -/

/-- An attempt to open a session over the plain transport: the probes sent for it, and the session
if there is one. -/
structure Opening (c : Connector) (probes : Dialogue) (session : Option Session) : Prop where
  /-- Only the version is asked for. -/
  onlyProbes : ∀ entry ∈ probes, entry.1.query = .version
  /-- There is one probe, and a second one exactly after a refusal that can be answered. -/
  counted : ∃ first rest, probes = first :: rest ∧
    (c.CanAnswer first.2 → rest.length = 1) ∧ (¬ c.CanAnswer first.2 → rest = [])
  /-- There is a session exactly when the agent makes itself known in the last reply. -/
  obtained : ∀ info, (∃ s, session = some s ∧ s.agent = info) ↔
    ∃ last, probes.getLast? = some last ∧ last.2.Introduces info

theorem opened_agent_iff {c : Connector} {client : AgentClient} {body : String}
    {info : AgentInfo} : (∃ s, (c.opened client body).toOption = some s ∧ s.agent = info) ↔
      AgentInfo.ofProbe body = .ok info := by
  unfold opened
  cases AgentInfo.ofProbe body with
  | ok agent => simp [Except.toOption]
  | error fault => simp [Except.toOption]

/-- The session that comes of a successful reply to a probe. -/
theorem obtained_of_ok {c : Connector} {client : AgentClient} {reply : Reply} {body : String}
    (heard : reply.body = .ok body) (info : AgentInfo) :
    (∃ s, (c.opened client body).toOption = some s ∧ s.agent = info) ↔
      reply.Introduces info := by
  rw [opened_agent_iff, Reply.introduces_iff, heard]
  simp

/-- No agent makes itself known in a failure. -/
theorem obtained_of_error {reply : Reply} {fault : RequestFault} {e : ConnectionError}
    (heard : reply.body = .error fault) (info : AgentInfo) :
    (∃ s, (Except.error e : Except ConnectionError Session).toOption = some s ∧ s.agent = info) ↔
      reply.Introduces info := by
  rw [Reply.introduces_iff, heard]
  simp [Except.toOption]

theorem probeAgain_done {c : Connector} {client : AgentClient} {said : Dialogue}
    {result : Except ConnectionError Session}
    (reached : (c.probeAgain client).Reaches said (.done result)) :
    ∃ reply, said = [(client.request .version, reply)] ∧
      ∀ info, (∃ s, result.toOption = some s ∧ s.agent = info) ↔ reply.Introduces info := by
  obtain ⟨reply, rest, rfl, resumed⟩ := Exchange.done_of_send reached
  refine ⟨reply, ?_⟩
  cases heard : reply.body with
  | ok body =>
    rw [heard] at resumed
    obtain ⟨rfl, same⟩ := Exchange.reaches_of_done resumed
    cases same
    exact ⟨rfl, obtained_of_ok heard⟩
  | error fault =>
    rw [heard] at resumed
    obtain ⟨rfl, same⟩ := Exchange.reaches_of_done resumed
    cases same
    exact ⟨rfl, obtained_of_error heard⟩

/-- An attempt that ends with the reply to the first probe. -/
theorem Opening.once {c : Connector} {client : AgentClient} {reply : Reply}
    {session : Option Session} (final : ¬ c.CanAnswer reply)
    (obtained : ∀ info, (∃ s, session = some s ∧ s.agent = info) ↔ reply.Introduces info) :
    c.Opening [(client.request .version, reply)] session where
  onlyProbes := by
    intro entry member
    rw [List.mem_singleton.mp member]
    rfl
  counted := ⟨_, [], rfl, fun answerable => absurd answerable final, fun _ => rfl⟩
  obtained := by simpa using obtained

/-- An attempt that answers a refusal of the first probe. -/
theorem Opening.twice {c : Connector} {client client' : AgentClient} {first second : Reply}
    {session : Option Session} (answerable : c.CanAnswer first)
    (obtained : ∀ info, (∃ s, session = some s ∧ s.agent = info) ↔ second.Introduces info) :
    c.Opening [(client.request .version, first), (client'.request .version, second)] session where
  onlyProbes := by
    intro entry member
    simp only [List.mem_cons, List.not_mem_nil, or_false] at member
    rcases member with rfl | rfl <;> rfl
  counted := ⟨_, [_], rfl, fun _ => rfl, fun final => absurd answerable final⟩
  obtained := by simpa using obtained

/-- Over the plain transport no certificate is in the way. -/
theorem exists_preflight_plain {c : Connector} (plain : c.endpoint.transport = .plain)
    (files : Files) : ∃ client, c.preflight files = .ok client := by
  simp [preflight, trusted, plain, ClientLibrary.standard]

/-- Over the plain transport every attempt to connect is an opening of a session. -/
theorem opening_of_connect {c : Connector} {files : Files} {said : Dialogue}
    {result : Except ConnectionError Session} (plain : c.endpoint.transport = .plain)
    (reached : (c.connect files).Reaches said (.done result)) :
    c.Opening said result.toOption := by
  obtain ⟨client, made⟩ := exists_preflight_plain plain files
  simp only [connect, made] at reached
  obtain ⟨reply, rest, rfl, resumed⟩ := Exchange.done_of_send reached
  cases heard : reply.body with
  | ok body =>
    simp only [heard] at resumed
    obtain ⟨rfl, same⟩ := Exchange.reaches_of_done resumed
    cases same
    exact .once (not_canAnswer fun _ => by simp [heard]) (obtained_of_ok heard)
  | error fault =>
    cases fault with
    | unauthorized challenge =>
      have answerable := canAnswer_iff (c := c) heard
      simp only [heard] at resumed
      cases handled : c.endpoint.handler? with
      | none =>
        simp only [handled] at resumed
        obtain ⟨rfl, same⟩ := Exchange.reaches_of_done resumed
        cases same
        exact .once (by simp [answerable, handled]) (obtained_of_error heard)
      | some handler =>
        cases answered : answerChallenge c.endpoint.name handler challenge with
        | error e =>
          simp only [handled, answered] at resumed
          obtain ⟨rfl, same⟩ := Exchange.reaches_of_done resumed
          cases same
          exact .once (by simp [answerable, handled, answered]) (obtained_of_error heard)
        | ok credentials =>
          simp only [handled, answered] at resumed
          obtain ⟨second, rfl, obtained⟩ := probeAgain_done resumed
          exact .twice (answerable.mpr ⟨handler, credentials, handled, answered⟩) obtained
    | transport | timeout | status code =>
      simp only [heard] at resumed
      obtain ⟨rfl, same⟩ := Exchange.reaches_of_done resumed
      cases same
      exact .once (not_canAnswer fun _ => by simp [heard]) (obtained_of_error heard)

end Connector

end BeanMeter
