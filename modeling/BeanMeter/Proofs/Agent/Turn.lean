import BeanMeter.Agent.SessionManager
import BeanMeter.Proofs.Agent.Dialogue

/-! # Turns of a session manager

A run of a session manager against an agent is a list of turns: one for each step, with the manager
before and after it and all that was said in it.

* `SessionManager.turns` — the turns of a sequence of steps.
* `SessionManager.turns_forall` — what every single turn keeps, a run keeps.
* `SessionManager.Sample` — a run in which a challenge is answered and a read fails.
-/

namespace BeanMeter.SessionManager

structure Turn where
  before : SessionManager
  /-- The files as they are when the step is taken. -/
  files : Files
  step : Step
  /-- All that is said in the step. -/
  dialogue : Dialogue
  outcome : Outcome
  after : SessionManager

/-- One step, held with an agent after all of `past` has been said. -/
def turn (agent : Agent) (past : Dialogue) (m : SessionManager) (files : Files) (step : Step) :
    Turn :=
  let ((after, outcome), said) := (m.step files step).converse agent past
  ⟨m, files, step, said, outcome, after⟩

/-- The turns of a sequence of steps, each of which finds its own files. -/
def turns (agent : Agent) (past : Dialogue) (m : SessionManager) :
    List (Files × Step) → List Turn
  | [] => []
  | (files, step) :: rest =>
    let t := m.turn agent past files step
    t :: t.after.turns agent (past ++ t.dialogue) rest

/-- The step of a turn has come to its end in what was said. -/
def Turn.Taken (t : Turn) : Prop :=
  (t.before.step t.files t.step).Reaches t.dialogue (.done (t.after, t.outcome))

theorem taken_turn (agent : Agent) (past : Dialogue) (m : SessionManager) (files : Files)
    (step : Step) : (m.turn agent past files step).Taken :=
  Exchange.converse_reaches agent past (m.step files step)

/-- An invariant of managers that every turn preserves, with a property of the turns that it
implies: the property holds all along a run. -/
theorem turns_forall (Inv : SessionManager → Prop) {P : Turn → Prop}
    (kept : ∀ t : Turn, t.Taken → Inv t.before → P t ∧ Inv t.after) (agent : Agent)
    (steps : List (Files × Step)) {past : Dialogue} {m : SessionManager} (start : Inv m) :
    ∀ t ∈ m.turns agent past steps, P t := by
  induction steps generalizing past m with
  | nil => exact fun _ member => (List.not_mem_nil member).elim
  | cons entry rest ih =>
    obtain ⟨files, step⟩ := entry
    obtain ⟨holds, next⟩ := kept _ (taken_turn agent past m files step) start
    intro t member
    rcases List.mem_cons.mp member with rfl | member
    · exact holds
    · exact ih next t member

/-! ## A run -/

namespace Sample

/-- A connector with an identity to answer a challenge with. -/
def connector : Connector :=
  ⟨⟨⟨"localhost", 8778, "/jolokia", false⟩, some "monitor", some "secret", some "SASL/PLAIN", none,
    false⟩, 1000, none⟩

/-- An agent that challenges the first request, makes itself known to the second and then fails. -/
def agent : Agent := fun past _ =>
  match past.length with
  | 0 => .answered ⟨401, some "Basic realm=agents", some ""⟩
  | 1 => .answered ⟨200, none, some "\x7b\"status\":200,\"value\":\x7b\"agent\":\"1.7\"\x7d\x7d"⟩
  | _ => .answered ⟨500, none, some ""⟩

def requests : List ReadRequest := [⟨"java.lang:type=Threading", ["ThreadCount"]⟩]

def steps : List (Files × Step) :=
  [.connect, .read requests false, .connect, .read requests true, .connect, .invalidate].map
    fun step => (.ofList [], step)

def turns : List Turn := (new connector).turns agent [] steps

end Sample

end BeanMeter.SessionManager
