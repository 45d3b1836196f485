import BeanMeter.Agent.Exchange

/-! # Dialogues

What is said while an exchange is held, against any agent. An exchange only waits for replies, so
everything that can come of it is found by letting the replies vary.

* `Exchange.Reaches` — what is left of an exchange after a dialogue.
* `Exchange.after` — the same as a function of the replies alone.
* `Exchange.converse` — the exchange held to its end with one agent.
* `Exchange.Keeps` — a property of every request and every value, whatever the replies are.
-/

namespace BeanMeter

/-- Requests in the order in which they were sent, each with what came back for it. -/
abbrev Dialogue : Type := List (AgentRequest × Reply)

/-- An agent. It may answer a request differently after every history of what was said before. -/
abbrev Agent : Type := Dialogue → AgentRequest → Reply

namespace Exchange

/-! ## What is left after a dialogue -/

/-- `x.Reaches said y`: once `said` has been said, `y` is what is left of `x`. -/
inductive Reaches : Exchange α → Dialogue → Exchange α → Prop
  | refl {x : Exchange α} : Reaches x [] x
  | step {request : AgentRequest} {resume : Reply → Exchange α} {reply : Reply} {said : Dialogue}
      {y : Exchange α} (rest : Reaches (resume reply) said y) :
      Reaches (.send request resume) ((request, reply) :: said) y

theorem Reaches.trans {x y z : Exchange α} {said more : Dialogue} (first : x.Reaches said y)
    (second : y.Reaches more z) : x.Reaches (said ++ more) z := by
  induction first with
  | refl => exact second
  | step _ ih => exact .step (ih second)

/-- Hearing the reply to the request that is waiting for one. -/
theorem Reaches.hear {x : Exchange α} {said : Dialogue} {request : AgentRequest}
    {resume : Reply → Exchange α} (reached : x.Reaches said (.send request resume))
    (reply : Reply) : x.Reaches (said ++ [(request, reply)]) (resume reply) :=
  reached.trans (.step .refl)

theorem Reaches.andThen {x y : Exchange α} {said : Dialogue} (reached : x.Reaches said y)
    (f : α → Exchange β) : (x.andThen f).Reaches said (y.andThen f) := by
  induction reached with
  | refl => exact .refl
  | step _ ih => exact .step ih

theorem Reaches.map {x y : Exchange α} {said : Dialogue} (reached : x.Reaches said y)
    (f : α → β) : (x.map f).Reaches said (y.map f) := by
  induction reached with
  | refl => exact .refl
  | step _ ih => exact .step ih

/-- Nothing more is said once an exchange is done. -/
theorem reaches_of_done {a : α} {said : Dialogue} {y : Exchange α}
    (reached : (Exchange.done a).Reaches said y) : said = [] ∧ y = .done a := by
  cases reached
  exact ⟨rfl, rfl⟩

/-- An exchange that asks something and is done has got an answer to its first request. -/
theorem done_of_send {request : AgentRequest} {resume : Reply → Exchange α} {said : Dialogue}
    {a : α} (reached : (Exchange.send request resume).Reaches said (.done a)) :
    ∃ reply rest, said = (request, reply) :: rest ∧ (resume reply).Reaches rest (.done a) := by
  cases reached with
  | step rest => exact ⟨_, _, rfl, rest⟩

/-- An exchange that goes on with the value of another has reached its end through that value. -/
theorem done_of_andThen {x : Exchange α} {f : α → Exchange β} {said : Dialogue} {b : β}
    (reached : (x.andThen f).Reaches said (.done b)) :
    ∃ first second a, said = first ++ second ∧ x.Reaches first (.done a) ∧
      (f a).Reaches second (.done b) := by
  induction x generalizing said with
  | done a => exact ⟨[], said, a, rfl, .refl, reached⟩
  | send request resume ih =>
    obtain ⟨reply, rest, rfl, resumed⟩ := done_of_send reached
    obtain ⟨first, second, a, rfl, left, right⟩ := ih reply resumed
    exact ⟨(request, reply) :: first, second, a, rfl, .step left, right⟩

theorem done_of_map {x : Exchange α} {f : α → β} {said : Dialogue} {b : β}
    (reached : (x.map f).Reaches said (.done b)) :
    ∃ a, b = f a ∧ x.Reaches said (.done a) := by
  induction x generalizing said with
  | done a =>
    obtain ⟨rfl, same⟩ := reaches_of_done reached
    cases same
    exact ⟨a, rfl, .refl⟩
  | send request resume ih =>
    obtain ⟨reply, rest, rfl, resumed⟩ := done_of_send reached
    obtain ⟨a, same, ended⟩ := ih reply resumed
    exact ⟨a, same, .step ended⟩

/-- What is left of an exchange after some replies. Replies to nothing are passed over. -/
def after : Exchange α → List Reply → Exchange α
  | x, [] => x
  | .done a, _ :: _ => .done a
  | .send _ resume, reply :: replies => (resume reply).after replies

theorem Reaches.after_eq {x y : Exchange α} {said : Dialogue} (reached : x.Reaches said y) :
    x.after (said.map (·.2)) = y := by
  induction reached with
  | @refl x => cases x <;> rfl
  | step _ ih => exact ih

/-! ## Holding an exchange with an agent -/

/-- Holds an exchange with an agent to its end, `past` having been said before: returns its value
and what was said in it. -/
def converse (agent : Agent) (past : Dialogue) : Exchange α → α × Dialogue
  | .done a => (a, [])
  | .send request resume =>
    let reply := agent past request
    let (a, said) := (resume reply).converse agent (past ++ [(request, reply)])
    (a, (request, reply) :: said)

theorem converse_reaches (agent : Agent) (past : Dialogue) (x : Exchange α) :
    x.Reaches (x.converse agent past).2 (.done (x.converse agent past).1) := by
  induction x generalizing past with
  | done a => exact .refl
  | send request resume ih => exact .step (ih _ _)

/-! ## Properties of all that can be said -/

/-- Whatever the replies are, every request has the property `P` and the value the property `Q`. -/
def Keeps (P : AgentRequest → Prop) (Q : α → Prop) : Exchange α → Prop
  | .done a => Q a
  | .send request resume => P request ∧ ∀ reply, (resume reply).Keeps P Q

theorem Keeps.andThen {P : AgentRequest → Prop} {Q : α → Prop} {R : β → Prop} {x : Exchange α}
    {f : α → Exchange β} (first : x.Keeps P Q) (second : ∀ a, Q a → (f a).Keeps P R) :
    (x.andThen f).Keeps P R := by
  induction x with
  | done a => exact second a first
  | send request resume ih => exact ⟨first.1, fun reply => ih reply (first.2 reply)⟩

theorem Keeps.map {P : AgentRequest → Prop} {Q : α → Prop} {R : β → Prop} {x : Exchange α}
    {f : α → β} (kept : x.Keeps P Q) (values : ∀ a, Q a → R (f a)) : (x.map f).Keeps P R := by
  induction x with
  | done a => exact values a kept
  | send request resume ih => exact ⟨kept.1, fun reply => ih reply (kept.2 reply)⟩

theorem Keeps.imp {P P' : AgentRequest → Prop} {Q : α → Prop} {x : Exchange α}
    (kept : x.Keeps P Q) (requests : ∀ request, P request → P' request) : x.Keeps P' Q := by
  induction x with
  | done a => exact kept
  | send request resume ih =>
    exact ⟨requests request kept.1, fun reply => ih reply (kept.2 reply)⟩

/-- A property that an exchange keeps holds of all that has been said and of what is left. -/
theorem Keeps.reached {P : AgentRequest → Prop} {Q : α → Prop} {x y : Exchange α}
    {said : Dialogue} (kept : x.Keeps P Q) (reached : x.Reaches said y) :
    (∀ entry ∈ said, P entry.1) ∧ y.Keeps P Q := by
  induction reached with
  | refl => exact ⟨fun _ member => (List.not_mem_nil member).elim, kept⟩
  | step _ ih =>
    obtain ⟨requests, left⟩ := ih (kept.2 _)
    refine ⟨fun entry member => ?_, left⟩
    rcases List.mem_cons.mp member with rfl | member
    · exact kept.1
    · exact requests entry member

end Exchange

end BeanMeter
