import BeanMeter.Proofs.Agent.Admission
import BeanMeter.Proofs.Agent.SessionLife
import BeanMeter.Proofs.Scheduling.LifeCycle
import Mathlib.Data.List.Induction

/-! # Reconnecting

Over the plain transport, and with something to read, what a tick asks of the agent is settled by
the tick before it: one that completed leaves its session behind, and any other one leaves none.

* `Reply.FailsRead` — the ways in which a bulk read fails.
* `Tick.Reconnects` — the rule for a tick that finds no session.
* `Linked` — every tick finds what the one before it has left; the invariant of a run.
* `Linked.unfailed` — no read has failed in a session in which another one is sent.
* `Scheduler.reconnects_run` — the protocol between the ticks of every run.
-/

namespace BeanMeter

/-! ## Failed reads -/

/-- The ways in which a bulk read fails. What the single entries of a reply say is none of them. -/
inductive Reply.FailsRead : Reply → Prop
  | lost : FailsRead .lost
  | late : FailsRead .late
  | status {a : Answer} (unsuccessful : ¬ (200 ≤ a.status ∧ a.status < 300)) :
      FailsRead (.answered a)
  | cutShort {a : Answer} (missing : a.body = none) : FailsRead (.answered a)
  | undecodable {a : Answer} {body : String} (arrived : a.body = some body)
      (malformed : Response.parseBulk? body = none) : FailsRead (.answered a)

theorem Reply.responses?_eq_none_iff {reply : Reply} :
    reply.responses? = none ↔ ∀ body, reply.body = .ok body → Response.parseBulk? body = none := by
  unfold responses?
  cases reply.body with
  | error fault => simp [Except.toOption]
  | ok body => simp [Except.toOption]

theorem Reply.failsRead_iff {reply : Reply} : reply.FailsRead ↔ reply.responses? = none := by
  simp only [responses?_eq_none_iff, body_eq_ok_iff]
  constructor
  · rintro fails body ⟨a, rfl, success, arrived⟩
    cases fails with
    | status unsuccessful => exact absurd success unsuccessful
    | cutShort missing => simp [arrived] at missing
    | undecodable same malformed =>
      rw [arrived] at same
      cases same
      exact malformed
  · intro malformed
    cases reply with
    | lost => exact .lost
    | late => exact .late
    | answered a =>
      by_cases success : 200 ≤ a.status ∧ a.status < 300
      · cases arrived : a.body with
        | none => exact .cutShort arrived
        | some body => exact .undecodable arrived (malformed body ⟨a, rfl, success, arrived⟩)
      · exact .status success

/-! ## Requests -/

def Effect.requests (effects : List Effect) : List AgentRequest :=
  effects.filterMap fun
    | .sent request => some request
    | .emitted _ => none

theorem Effect.requests_append (first second : List Effect) :
    Effect.requests (first ++ second) = Effect.requests first ++ Effect.requests second :=
  List.filterMap_append

theorem Effect.requests_emitted (emissions : List Emission) :
    Effect.requests (emissions.map .emitted) = [] := by
  simp [Effect.requests]

theorem SessionManager.Acquisition.onlyProbes {c : Connector} {m : SessionManager}
    {probes : Dialogue} {session : Option Session} (acquired : Acquisition c m probes session) :
    ∀ entry ∈ probes, entry.1.query = .version := by
  cases holds : m.session with
  | none => exact (acquired.opened holds).onlyProbes
  | some held =>
    have silent : probes = [] := (acquired.held held holds).1
    simp [silent]

theorem SessionManager.connector_of_current {m m' : SessionManager} {files : Files}
    {said : Dialogue} {result : Except ConnectionError Session}
    (reached : (m.current files).Reaches said (.done (m', result))) :
    m'.connector = m.connector := by
  have gets : m.Gets (m', result) := ((m.current_probes files).reached reached).2
  cases result with
  | ok session =>
    have same : m' = { m with session := some session } := gets
    rw [same]
  | error e =>
    have same : m' = m := gets.1
    rw [same]

namespace TickLog

theorem ticks_eq {log : TickLog} (cut : log.cut = none) (current : log.current = none) :
    log.ticks = log.finished := by
  simp [ticks, cut, current]

theorem ticks_eq_concat {log : TickLog} {t : Tick} (cut : log.cut = none)
    (current : log.current = some t) : log.ticks = log.finished ++ [t] := by
  simp [ticks, cut, current]

end TickLog

namespace Tick

/-- All requests of a tick in order; the last one may still wait for an answer. -/
def requests (t : Tick) : List AgentRequest := t.dialogue.map (·.1) ++ t.asked.toList

theorem requests_hear (now : Int) (reply : Reply) (t : Tick) :
    (t.hear now reply).requests = t.requests := by
  cases asked : t.asked <;> simp [requests, hear, asked]

/-- A session has been opened in a tick. -/
def Opens (c : Connector) (session : Session) (t : Tick) : Prop :=
  ∃ probes, probes <+: t.dialogue ∧ c.Opening probes (some session)

/-- The rule for a tick that finds no session. -/
structure Reconnects (c : Connector) (plan : List ReadRequest) (t : Tick) : Prop where
  probe : ∃ first rest, t.requests = first :: rest ∧ first.query = .version
  /-- What is no probe is a single bulk read at the end, in a session that has been opened. -/
  read : ∀ post ∈ t.requests, post.query ≠ .version → ∃ probes session,
    c.Opening probes (some session) ∧ probes <+: t.dialogue ∧
      t.requests = probes.map (·.1) ++ [post] ∧
      post = session.client.request (.bulkRead plan)

/-- A tick has come by a session, and has sent its bulk read in it. -/
def Uses (c : Connector) (plan : List ReadRequest) (session : Session) (t : Tick) : Prop :=
  ∃ probes, SessionManager.Acquisition c t.manager probes (some session) ∧
    probes <+: t.dialogue ∧
    t.requests = probes.map (·.1) ++ [session.client.request (.bulkRead plan)]

/-- What a tick asks: probes alone while it has no session, and a bulk read once it has one. -/
inductive Conduct (c : Connector) (plan : List ReadRequest) (t : Tick) : Prop
  | probing (free : t.manager.session = none)
      (probes : ∀ request ∈ t.requests, request.query = .version) (begun : t.requests ≠ [])
  | reading {session : Session} (uses : t.Uses c plan session)

section

variable {c : Connector} {plan : List ReadRequest} {t : Tick}

theorem Uses.post_eq {session : Session} {post : AgentRequest} (uses : t.Uses c plan session)
    (member : post ∈ t.requests) (noProbe : post.query ≠ .version) :
    post = session.client.request (.bulkRead plan) := by
  obtain ⟨probes, acquired, _, requests⟩ := uses
  rw [requests] at member
  rcases List.mem_append.mp member with probe | last
  · obtain ⟨entry, among, rfl⟩ := List.mem_map.mp probe
    exact absurd (acquired.onlyProbes entry among) noProbe
  · exact List.mem_singleton.mp last

theorem Uses.post_mem {session : Session} (uses : t.Uses c plan session) :
    session.client.request (.bulkRead plan) ∈ t.requests := by
  obtain ⟨_, _, _, requests⟩ := uses
  simp [requests]

theorem Conduct.uses {post : AgentRequest} (conduct : t.Conduct c plan)
    (member : post ∈ t.requests) (noProbe : post.query ≠ .version) :
    ∃ session, t.Uses c plan session := by
  cases conduct with
  | probing _ probes => exact absurd (probes post member) noProbe
  | reading uses => exact ⟨_, uses⟩

theorem Uses.continues {session : Session} (uses : t.Uses c plan session)
    (held : t.manager.session ≠ none) :
    t.requests = [session.client.request (.bulkRead plan)] ∧ t.manager.session = some session := by
  obtain ⟨probes, acquired, _, requests⟩ := uses
  obtain ⟨other, holds⟩ := Option.ne_none_iff_exists'.mp held
  obtain ⟨silent, same⟩ := acquired.held other holds
  rw [requests, silent, holds, same]
  exact ⟨rfl, rfl⟩

theorem Conduct.continues (conduct : t.Conduct c plan) (held : t.manager.session ≠ none) :
    ∃ session : Session, t.requests = [session.client.request (.bulkRead plan)] := by
  cases conduct with
  | probing free => exact absurd free held
  | reading uses => exact ⟨_, (uses.continues held).1⟩

theorem Conduct.reconnects (conduct : t.Conduct c plan) (free : t.manager.session = none) :
    t.Reconnects c plan := by
  constructor
  · cases conduct with
    | probing _ probes begun =>
      obtain ⟨first, rest, requests⟩ := List.exists_cons_of_ne_nil begun
      exact ⟨first, rest, requests, probes first (by simp [requests])⟩
    | reading uses =>
      obtain ⟨probes, acquired, _, requests⟩ := uses
      have opening := acquired.opened free
      obtain ⟨first, rest, said, _⟩ := opening.counted
      have probe : first.1.query = .version := opening.onlyProbes first (by simp [said])
      rw [said] at requests
      exact ⟨first.1, _, requests, probe⟩
  · intro post member noProbe
    obtain ⟨session, uses⟩ := conduct.uses member noProbe
    have same := uses.post_eq member noProbe
    obtain ⟨probes, acquired, heard, requests⟩ := uses
    rw [← same] at requests
    exact ⟨probes, session, acquired.opened free, heard, requests, same⟩

end

section

variable {c : Connector} {files : Files} {plan : List ReadRequest} {t : Tick}
  {m : SessionManager} {session : Session}

theorem conduct_of_probing {request : AgentRequest} {resume : Reply → Exchange ConnectResult}
    (reached : (t.manager.current files).Reaches t.dialogue (.send request resume)) :
    Conduct c plan { t with asked := some request } := by
  have free := SessionManager.free_of_current reached
  obtain ⟨probed, probe, _⟩ := (t.manager.current_probes files).reached reached
  refine .probing free ?_ (by simp [requests])
  intro r member
  rcases List.mem_append.mp member with said | asked
  · obtain ⟨entry, among, rfl⟩ := List.mem_map.mp said
    exact probed entry among
  · obtain rfl : r = request := by simpa using asked
    exact probe

theorem conduct_of_unconnected {e : ConnectionError} (plain : c.endpoint.transport = .plain)
    (opens : t.manager.connector = c) (heard : t.asked = none)
    (reached : (t.manager.current files).Reaches t.dialogue (.done (m, .error e))) :
    t.Conduct c plan := by
  subst opens
  have free : t.manager.session = none := ((t.manager.current_probes files).reached reached).2.2
  obtain ⟨acquired, _, _⟩ := SessionManager.acquisition_of_current plain reached
  obtain ⟨first, rest, said, _⟩ := (acquired.opened free).counted
  have requests : t.requests = t.dialogue.map (·.1) := by simp [requests, heard]
  refine .probing free ?_ (by simp [requests, said])
  intro r member
  rw [requests] at member
  obtain ⟨entry, among, rfl⟩ := List.mem_map.mp member
  exact acquired.onlyProbes entry among

theorem uses_of_asking (plain : c.endpoint.transport = .plain)
    (opens : t.manager.connector = c)
    (reached : (t.manager.current files).Reaches t.dialogue (.done (m, .ok session))) :
    Uses c plan session { t with asked := some (session.client.request (.bulkRead plan)) } := by
  subst opens
  obtain ⟨acquired, _, _⟩ := SessionManager.acquisition_of_current plain reached
  exact ⟨t.dialogue, acquired, List.prefix_rfl, rfl⟩

theorem uses_of_answered {probes : Dialogue} {reply : Reply}
    (plain : c.endpoint.transport = .plain) (opens : t.manager.connector = c)
    (heard : t.asked = none)
    (reached : (t.manager.current files).Reaches probes (.done (m, .ok session)))
    (said : t.dialogue = probes ++ [(session.client.request (.bulkRead plan), reply)]) :
    t.Uses c plan session := by
  subst opens
  obtain ⟨acquired, _, _⟩ := SessionManager.acquisition_of_current plain reached
  refine ⟨probes, acquired, ?_, ?_⟩
  · rw [said]
    exact List.prefix_append _ _
  · simp [requests, heard, said]

end

/-! ## What a tick leaves behind -/

/-- A tick has completed in a session, which it leaves to the next one. -/
structure Leaves (c : Connector) (registry : Registry) (files : Files) (session : Session)
    (t : Tick) : Prop where
  completed : t.completed registry files = true
  uses : t.Uses c registry.readPlan session
  read : ∃ reply, t.readReply? = some reply ∧ ¬ reply.FailsRead

end Tick

/-- What is found after some ticks is what the last of them has left. -/
structure Finds (c : Connector) (registry : Registry) (files : Files) (last : Option Tick)
    (m : SessionManager) : Prop where
  connector : m.connector = c
  held : ∀ session, m.session = some session →
    ∃ t, last = some t ∧ t.Leaves c registry files session
  free : m.session = none → ∀ t, last = some t → t.completed registry files = false

/-- Every tick finds what the one before it has left. -/
def Linked (c : Connector) (registry : Registry) (files : Files) (ticks : List Tick) : Prop :=
  ∀ earlier t later, ticks = earlier ++ t :: later →
    Finds c registry files earlier.getLast? t.manager ∧ t.Conduct c registry.readPlan

section

variable {c : Connector} {registry : Registry} {files : Files} {ticks earlier later : List Tick}
  {t : Tick} {last : Option Tick} {m : SessionManager}

theorem Finds.held_of_completed (finds : Finds c registry files last m) (found : last = some t)
    (completed : t.completed registry files = true) : m.session ≠ none := by
  intro free
  rw [finds.free free t found] at completed
  cases completed

theorem Finds.free_of_incomplete (finds : Finds c registry files last m)
    (incomplete : ∀ t, last = some t → t.completed registry files = false) :
    m.session = none := by
  cases holds : m.session with
  | none => rfl
  | some session =>
    obtain ⟨t, found, leaves⟩ := finds.held session holds
    have completed := leaves.completed
    rw [incomplete t found] at completed
    cases completed

theorem finds_of_leaves {session : Session} (opens : m.connector = c)
    (holds : m.session = some session) (leaves : t.Leaves c registry files session) :
    Finds c registry files (some t) m where
  connector := opens
  held := by
    intro other held
    rw [holds] at held
    cases held
    exact ⟨t, rfl, leaves⟩
  free := by simp [holds]

theorem finds_of_incomplete (opens : m.connector = c) (free : m.session = none)
    (incomplete : t.completed registry files = false) :
    Finds c registry files (some t) m where
  connector := opens
  held := by simp [free]
  free := by
    intro _ u found
    cases found
    exact incomplete

theorem linked_nil : Linked c registry files [] := by
  intro earlier t later split
  simp at split

theorem linked_concat : Linked c registry files (ticks ++ [t]) ↔
    Linked c registry files ticks ∧
      Finds c registry files ticks.getLast? t.manager ∧ t.Conduct c registry.readPlan := by
  constructor
  · intro linked
    refine ⟨?_, linked ticks t [] rfl⟩
    intro earlier u later split
    exact linked earlier u (later ++ [t]) (by simp [split])
  · rintro ⟨linked, final⟩ earlier u later split
    rcases List.eq_nil_or_concat later with rfl | ⟨front, x, rfl⟩
    · obtain ⟨rfl, same⟩ := List.append_inj' split rfl
      cases same
      exact final
    · have longer : ticks ++ [t] = (earlier ++ u :: front) ++ [x] := by simpa using split
      obtain ⟨rfl, _⟩ := List.append_inj' longer rfl
      exact linked earlier u front rfl

/-- A session in which a bulk read is sent was opened in the same tick or in an earlier one, and
since then every tick has completed in it. -/
theorem Linked.unfailed {session : Session} (linked : Linked c registry files ticks)
    (split : ticks = earlier ++ t :: later) (uses : t.Uses c registry.readPlan session) :
    ∃ before used, earlier = before ++ used ∧
      (∃ opener since, used ++ [t] = opener :: since ∧ opener.Opens c session ∧
        ∀ u ∈ since, u.requests = [session.client.request (.bulkRead registry.readPlan)]) ∧
      ∀ u ∈ used, session.client.request (.bulkRead registry.readPlan) ∈ u.requests ∧
        ∃ reply, u.readReply? = some reply ∧ ¬ reply.FailsRead := by
  -- From the last tick back to the one that opened the session.
  induction earlier using List.reverseRecOn generalizing t later with
  | nil =>
    obtain ⟨finds, _⟩ := linked _ t later split
    obtain ⟨probes, acquired, heard, _⟩ := uses
    have free : t.manager.session = none := finds.free_of_incomplete (by simp)
    exact ⟨[], [], rfl, ⟨t, [], rfl, ⟨probes, heard, acquired.opened free⟩, by simp⟩, by simp⟩
  | append_singleton front last ih =>
    obtain ⟨finds, _⟩ := linked _ t later split
    by_cases free : t.manager.session = none
    · obtain ⟨probes, acquired, heard, _⟩ := uses
      exact ⟨front ++ [last], [], by simp,
        ⟨t, [], rfl, ⟨probes, heard, acquired.opened free⟩, by simp⟩, by simp⟩
    · obtain ⟨requests, holds⟩ := uses.continues free
      obtain ⟨u, found, leaves⟩ := finds.held session holds
      obtain rfl : last = u := by simpa using found
      have within : ticks = front ++ last :: t :: later := by simp [split]
      obtain ⟨before, used, rfl, ⟨opener, since, chain, opens, silent⟩, read⟩ :=
        ih within leaves.uses
      refine ⟨before, used ++ [last], by simp, ⟨opener, since ++ [t], ?_, opens, ?_⟩, ?_⟩
      · rw [chain, List.cons_append]
      · exact List.forall_mem_append.mpr ⟨silent, List.forall_mem_singleton.mpr requests⟩
      · have left := And.intro leaves.uses.post_mem leaves.read
        exact List.forall_mem_append.mpr ⟨read, List.forall_mem_singleton.mpr left⟩

end

namespace Scheduler

/-! ## Runs -/

/-- All requests are those of the ticks, and every tick finds what the one before it has left, as
the next one will. -/
structure Reconnecting (c : Connector) (past : List Effect) (s : Scheduler) (log : TickLog) :
    Prop where
  sent : Effect.requests past = log.ticks.flatMap Tick.requests
  linked : Linked c s.registry s.files log.ticks
  next : s.activity = .waiting ∨ s.state = .idle →
    Finds c s.registry s.files log.ticks.getLast? s.manager

theorem reconnecting_new (registry : Registry) (files : Files) (c : Connector) :
    Reconnecting c [] (new registry files c) .empty where
  sent := rfl
  linked := linked_nil
  next := fun _ => ⟨rfl, (fun _ held => nomatch held), (fun _ _ found => nomatch found)⟩

section

variable {c : Connector} {s s' : Scheduler} {log log' : TickLog} {t : Tick}
  {past effects : List Effect}

/-- A session outlives a tick that is followed by another one. -/
theorem settle_manager_of_next (next : s.settle.activity = .waiting ∨ s.settle.state = .idle) :
    s.settle.manager = s.manager := by
  apply settle_manager
  unfold settle at next ⊢
  split
  · next running => simp [running]
  · next ends => simp [ends] at next

theorem reconnecting_settle {change : ScrapeStats → ScrapeStats} (cut : log.cut = none)
    (sent : Effect.requests past = log.finished.flatMap Tick.requests ++ t.requests)
    (quiet : Effect.requests effects = [])
    (linked : Linked c s.registry s.files (log.finished ++ [t]))
    (left : Finds c s.registry s.files (some t) s.manager) :
    Reconnecting c (past ++ effects) (s.record change).settle
      (log.note t (s.record change).settle effects) := by
  have ticks : (log.note t (s.record change).settle effects).ticks = log.finished ++ [t] := by
    rw [note_settle]
    simp [TickLog.ticks, cut]
  constructor
  · rw [Effect.requests_append, sent, quiet, ticks]
    simp
  · rw [ticks, settle_registry, settle_files]
    exact linked
  · intro next
    rw [ticks, settle_registry, settle_files, settle_manager_of_next next]
    rw [List.getLast?_concat]
    exact left

/-- A tick that goes on sends one more request. -/
theorem reconnecting_ask {request : AgentRequest} {began : Int} {pending : Pending}
    (alive : s.state ≠ .idle) (cut : log.cut = none) (heard : t.asked = none)
    (sent : Effect.requests past = log.finished.flatMap Tick.requests ++ t.requests)
    (linked : Linked c s.registry s.files
      (log.finished ++ [{ t with asked := some request }])) :
    Reconnecting c (past ++ [.sent request]) { s with activity := .ticking began pending }
      { log with current := some { t with asked := some request } } := by
  have ticks : TickLog.ticks { log with current := some { t with asked := some request } } =
      log.finished ++ [{ t with asked := some request }] := by
    simp [TickLog.ticks, cut]
  constructor
  · rw [Effect.requests_append, sent, ticks]
    simp [Effect.requests, Tick.requests, heard]
  · rw [ticks]
    exact linked
  · rintro (waiting | idle)
    · cases waiting
    · exact absurd idle alive

/-- What a tick that has heard what it waited for asks and leaves is right, whatever it has
heard. -/
theorem Progress.reconnecting {began now : Int} (progress : Progress s began now t s' effects)
    (plain : c.endpoint.transport = .plain) (more : s.plan ≠ []) (alive : s.state ≠ .idle)
    (cut : log.cut = none) (heard : t.asked = none)
    (sent : Effect.requests past = log.finished.flatMap Tick.requests ++ t.requests)
    (linked : Linked c s.registry s.files log.finished)
    (finds : Finds c s.registry s.files log.finished.getLast? t.manager) :
    Reconnecting c (past ++ effects) s' (log.note t s' effects) := by
  have opens := finds.connector
  cases progress with
  | @connecting request _ found free reached =>
    have conduct : Tick.Conduct c s.plan { t with asked := some request } :=
      Tick.conduct_of_probing reached
    exact reconnecting_ask alive cut heard sent (linked_concat.mpr ⟨linked, finds, conduct⟩)
  | @reading session _ reached =>
    have uses : Tick.Uses c s.plan session
        { t with asked := some (session.client.request (.bulkRead s.plan)) } :=
      Tick.uses_of_asking plain opens reached
    exact reconnecting_ask alive cut heard sent (linked_concat.mpr ⟨linked, finds, .reading uses⟩)
  | unconnected free reached =>
    have course : t.Course s.registry s.files none := .unconnected reached
    have conduct : t.Conduct c s.plan :=
      Tick.conduct_of_unconnected plain opens heard reached
    have same := SessionManager.connector_of_current reached
    exact reconnecting_settle cut sent rfl (linked_concat.mpr ⟨linked, finds, conduct⟩)
      (finds_of_incomplete (same.trans opens) free course.completed_eq)
  | nothingToRead empty => exact absurd empty more
  | @completed session probes reply responses holds _ reached said decoded =>
    have course := decoded ▸ Tick.Course.answered more reached said
    have uses := Tick.uses_of_answered plain opens heard reached said
    have leaves : t.Leaves c s.registry s.files session := by
      refine ⟨course.completed_eq, uses, reply, ?_, ?_⟩
      · rw [Tick.readReply?_of_current reached said]
        simp [AgentClient.request]
      · simp [Reply.failsRead_iff, decoded]
    have same := SessionManager.connector_of_current reached
    exact reconnecting_settle cut sent (Effect.requests_emitted _)
      (linked_concat.mpr ⟨linked, finds, .reading uses⟩)
      (finds_of_leaves (same.trans opens) holds leaves)
  | unread holds _ reached said decoded =>
    have course := decoded ▸ Tick.Course.answered more reached said
    have uses := Tick.uses_of_answered plain opens heard reached said
    have same := SessionManager.connector_of_current reached
    have left : Finds c s.registry s.files (some t) s.manager.drop :=
      finds_of_incomplete (same.trans opens) rfl course.completed_eq
    exact reconnecting_settle cut sent rfl (linked_concat.mpr ⟨linked, finds, .reading uses⟩) left

theorem Move.reconnecting (move : Move s log s' log' effects) (stage : Stage s log)
    (plain : c.endpoint.transport = .plain) (more : s.registry.readPlan ≠ [])
    (kept : Reconnecting c past s log) : Reconnecting c (past ++ effects) s' log' := by
  obtain ⟨sent, linked, next⟩ := kept
  have quiet : Effect.requests (past ++ []) = log.ticks.flatMap Tick.requests := by
    rw [List.append_nil]
    exact sent
  cases move with
  | stays => exact ⟨quiet, linked, next⟩
  | starts state => exact ⟨quiet, linked, fun _ => next (.inr state)⟩
  | begins state activity progress =>
    obtain ⟨cut, current⟩ := stage.quiet (.inr activity)
    have ticks := TickLog.ticks_eq cut current
    rw [ticks] at sent linked next
    exact progress.reconnecting plain more (by simp [state]) cut rfl
      (sent.trans (List.append_nil _).symm) linked (next (.inl activity))
  | @hears t began now _ reply _ _ activity current progress =>
    obtain ⟨alive, cut⟩ := stage.ticking activity
    have ticks := TickLog.ticks_eq_concat cut current
    rw [ticks] at sent linked
    obtain ⟨earlier, finds, _⟩ := linked_concat.mp linked
    refine progress.reconnecting plain more ?_ cut rfl ?_ earlier finds
    · rcases alive with state | state <;> simp [state]
    · rw [sent, Tick.requests_hear]
      simp
  | drains activity => exact ⟨quiet, linked, by simp [activity]⟩
  | stops => exact ⟨quiet, linked, by simp⟩
  | cancels activity current =>
    have cut := (stage.ticking activity).2
    have same : TickLog.ticks { log with cut := log.current, current := none } = log.ticks := by
      simp [TickLog.ticks, cut]
    rw [current] at same
    exact ⟨by rw [same]; exact quiet, by rw [same]; exact linked, by simp⟩

/-! ### The next tick -/

theorem goOnReading_sends {s : Scheduler} (session : Session) (began now : Int)
    (more : s.plan ≠ []) : (s.goOnReading began now (session.read s.plan)).2 =
      [.sent (session.client.request (.bulkRead s.plan))] := by
  rw [Session.read, if_neg more]
  rfl

/-- The replies to the requests of a tick, each with the moment at which it arrives. -/
def receiving (heard : List (Int × Reply)) : List Event :=
  heard.map fun (later, reply) => .receive later reply

/-- A tick that connects sends what is said for it, and then the bulk read. -/
theorem connecting_sends {x : Exchange ConnectResult} {said : Dialogue} {session : Session}
    (reached : x.Reaches said (.done ({ s.manager with session := some session }, .ok session)))
    (free : s.manager.session = none) (more : s.plan ≠ []) (began now : Int)
    {heard : List (Int × Reply)} (replies : heard.map (·.2) = said.map (·.2)) :
    (s.goOnConnecting false began now x).2 ++
        ((s.goOnConnecting false began now x).1.run (receiving heard)).2 =
      said.map (fun entry => .sent entry.1) ++
        [.sent (session.client.request (.bulkRead s.plan))] := by
  -- On what is said: with every reply the exchange goes on from a scheduler that waits for it.
  generalize ended : Exchange.done _ = y at reached
  induction reached generalizing s now heard with
  | refl =>
    subst ended
    obtain rfl : heard = [] := by simpa using replies
    have goesOn := goOnConnecting_ok s session began now
    have sends := goOnReading_sends (s := s.withSession session) session began now more
    rw [free, Option.isSome_none] at goesOn
    rw [goesOn]
    exact congrArg (· ++ []) sends
  | @step request resume reply said y rest ih =>
    cases heard with
    | nil => simp at replies
    | cons entry heard =>
      obtain ⟨later, back⟩ := entry
      simp only [List.map_cons, List.cons.injEq] at replies
      obtain ⟨rfl, replies⟩ := replies
      have next := ih (s := { s with activity := .ticking began (.connecting resume) }) free more
        later replies ended
      exact congrArg (.sent request :: ·) next

theorem fire_waiting (activity : s.activity = .waiting) (now : Int) :
    s.fire now = (s.record ScrapeStats.tickStarted).goOnConnecting s.manager.session.isSome now now
      (s.manager.current s.files) := by
  simp only [fire, activity]
  rfl

/-- A tick that finds no session comes to its bulk read with any agent that admits it. -/
theorem fire_admitted (activity : s.activity = .waiting) (free : s.manager.session = none)
    (plain : s.manager.connector.endpoint.transport = .plain) (more : s.plan ≠ []) (now : Int)
    {heard : List (Int × Reply)} {info : AgentInfo}
    (admits : s.manager.connector.Admits info (heard.map (·.2))) :
    ∃ (probes : List AgentRequest) (session : Session), session.agent = info ∧
      (∀ probe ∈ probes, probe.query = .version) ∧
      (s.run (.fire now :: receiving heard)).2 =
        probes.map .sent ++ [.sent (session.client.request (.bulkRead s.plan))] := by
  obtain ⟨said, session, replies, agent, reached⟩ :=
    SessionManager.reaches_of_admits free plain admits s.files
  refine ⟨said.map (·.1), session, agent, ?_, ?_⟩
  · intro probe member
    obtain ⟨entry, among, rfl⟩ := List.mem_map.mp member
    exact ((s.manager.current_probes s.files).reached reached).1 entry among
  · have sends := connecting_sends (s := s.record ScrapeStats.tickStarted) reached free more now now
      replies.symm
    have fires := fire_waiting activity now
    rw [free, Option.isSome_none] at fires
    rw [run_cons, step, fires, List.map_map]
    exact sends

end

/-- The protocol between the ticks of a run, seen from one point of it. -/
structure ReconnectProtocol (c : Connector) (registry : Registry) (files : Files)
    (effects : List Effect) (s : Scheduler) (log : TickLog) : Prop where
  /-- Nothing is sent but the requests of the ticks. -/
  sent : Effect.requests effects = log.ticks.flatMap Tick.requests
  first : ∀ t later, log.ticks = t :: later → t.Reconnects c registry.readPlan
  afterCompleted : ∀ earlier last t later, log.ticks = earlier ++ last :: t :: later →
    last.completed registry files = true →
      ∃ session : Session, t.requests = [session.client.request (.bulkRead registry.readPlan)]
  afterSkipped : ∀ earlier last t later, log.ticks = earlier ++ last :: t :: later →
    last.completed registry files = false → t.Reconnects c registry.readPlan
  /-- A bulk read is sent in a session that was opened in the same tick or in an earlier one, and
  no read has failed since. -/
  unfailed : ∀ earlier t later, log.ticks = earlier ++ t :: later →
    ∀ post ∈ t.requests, post.query ≠ .version → ∃ session : Session,
      post = session.client.request (.bulkRead registry.readPlan) ∧
        ∃ before used, earlier = before ++ used ∧
          (∃ opener since, used ++ [t] = opener :: since ∧ opener.Opens c session ∧
            ∀ u ∈ since, u.requests = [post]) ∧
          ∀ u ∈ used, post ∈ u.requests ∧
            ∃ reply, u.readReply? = some reply ∧ ¬ reply.FailsRead
  goesOn : s.state = .running → ∀ later, .shutdown ∉ later → (s.run later).1.state = .running
  /-- Unless the last tick has completed, the next one comes to its bulk read with any agent that
  admits it. -/
  recovers : s.state = .running → log.current = none →
    (∀ last, log.ticks.getLast? = some last → last.completed registry files = false) →
      ∀ now heard info, c.Admits info (heard.map (·.2)) →
        ∃ (probes : List AgentRequest) (session : Session), session.agent = info ∧
          (∀ probe ∈ probes, probe.query = .version) ∧
          (s.run (.fire now :: receiving heard)).2 =
            probes.map .sent ++ [.sent (session.client.request (.bulkRead registry.readPlan))]

theorem Stage.waiting_of_running {s : Scheduler} {log : TickLog} (stage : Stage s log)
    (running : s.state = .running) (current : log.current = none) : s.activity = .waiting := by
  cases stage with
  | waiting _ activity => exact activity
  | idle state | stopped state | cancelled state => simp [running] at state
  | connecting _ _ _ inFlight | reading _ _ _ inFlight => simp [current] at inFlight

theorem Reconnecting.protocol {c : Connector} {effects : List Effect} {s : Scheduler}
    {log : TickLog} (kept : Reconnecting c effects s log) (stage : Stage s log)
    (plain : c.endpoint.transport = .plain) (more : s.registry.readPlan ≠ []) :
    ReconnectProtocol c s.registry s.files effects s log := by
  obtain ⟨sent, linked, next⟩ := kept
  constructor
  · exact sent
  · intro t later split
    obtain ⟨finds, conduct⟩ := linked [] t later split
    exact conduct.reconnects (finds.free_of_incomplete (by simp))
  · intro earlier last t later split completed
    obtain ⟨finds, conduct⟩ := linked (earlier ++ [last]) t later (by simp [split])
    exact conduct.continues (finds.held_of_completed (by simp) completed)
  · intro earlier last t later split skipped
    obtain ⟨finds, conduct⟩ := linked (earlier ++ [last]) t later (by simp [split])
    exact conduct.reconnects (finds.free_of_incomplete (by simpa using skipped))
  · intro earlier t later split post member noProbe
    obtain ⟨_, conduct⟩ := linked earlier t later split
    obtain ⟨session, uses⟩ := conduct.uses member noProbe
    obtain rfl := uses.post_eq member noProbe
    exact ⟨session, rfl, linked.unfailed split uses⟩
  · exact fun running later goesOn => run_running running goesOn
  · intro running current incomplete now heard info admits
    have activity := stage.waiting_of_running running current
    obtain ⟨connector, _, _⟩ := next (.inl activity)
    have free := (next (.inl activity)).free_of_incomplete incomplete
    subst connector
    exact fire_admitted activity free plain more now admits

/-- Over the plain transport, and with something to read, a tick after a completed one goes on in
its session, and every other tick opens one anew, whatever the agent does. -/
theorem reconnects_run (registry : Registry) (files : Files) (c : Connector)
    (plain : c.endpoint.transport = .plain) (more : registry.readPlan ≠ [])
    (events : List Event) :
    ReconnectProtocol c registry files ((new registry files c).run events).2
      ((new registry files c).run events).1 ((new registry files c).logFrom .empty events) := by
  have start := stage_new registry files c
  obtain ⟨sameRegistry, sameFiles⟩ := run_settings events start
  have kept := run_induction
    (fun past s log => s.registry = registry ∧ Reconnecting c past s log) ?_ events [] start
    ⟨rfl, reconnecting_new registry files c⟩
  · have protocol := kept.2.2.protocol kept.1 plain (sameRegistry ▸ more)
    rwa [sameRegistry, sameFiles, List.nil_append] at protocol
  · rintro past s log s' log' effects stage move ⟨same, kept⟩
    exact ⟨move.settings.1.trans same, move.reconnecting stage plain (same ▸ more) kept⟩

namespace Sample

/-- A read that fails, one that succeeds in a new session, and the begin of a third one. -/
def events : List Event :=
  [.start, .fire 0, .receive 1 introduction, .receive 2 (.answered ⟨503, none, some ""⟩),
    .fire 10, .receive 11 introduction, .receive 12 (.answered ⟨200, none, some "[]"⟩), .fire 20]

end Sample

theorem sample_reconnects :
    SessionManager.Sample.connector.endpoint.transport = .plain ∧
      Sample.registry.readPlan ≠ [] ∧
      ReconnectProtocol SessionManager.Sample.connector Sample.registry (.ofList [])
        (Sample.scheduler.run Sample.events).2 (Sample.scheduler.run Sample.events).1
        (Sample.scheduler.logFrom .empty Sample.events) ∧
      (Sample.scheduler.logFrom .empty Sample.events).ticks.map
          (fun t => (t.requests.map AgentRequest.method,
            t.completed Sample.registry (.ofList []))) =
        [(["GET", "POST"], false), (["GET", "POST"], true), (["POST"], false)] := by
  have plain : SessionManager.Sample.connector.endpoint.transport = .plain := rfl
  have more : Sample.registry.readPlan ≠ [] := by decide +kernel
  exact ⟨plain, more, reconnects_run _ _ _ plain more Sample.events, by decide +kernel⟩

end Scheduler

end BeanMeter
