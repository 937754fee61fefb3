import UnattendedRefresh.Proofs.Pool.Operations
import Mathlib.Data.List.Count

/-!
# Sessions with a pool

A session is a pool together with everybody who uses it: callers who submit jobs,
workers who start and end them, and shutdowns that wait for the pool to drain.
What happens next is open at every point, so a statement about all lists of acts
holds for every interleaving. Submissions and shutdowns are numbered in the order
in which they come, and a job is known by the number of its submission.

Every accepted job waits, runs or has ended, and takes these steps once: the
numbers of acceptances, starts and ends of a job differ by whether it waits and
whether it runs.
-/

namespace UnattendedRefresh

inductive PoolAct where
  | submit
  | start (job : Nat)
  /-- A running job ends, by itself or by a crash. -/
  | finish (job : Nat) (crashed : Bool)
  /-- A shutdown closes the pool and begins to wait. -/
  | shutdown
  /-- A shutdown that waits looks whether the pool is drained. -/
  | awaitDrain (call : Nat)

inductive PoolEvent where
  | accepted (job : Nat)
  | refused (job : Nat) (fault : PoolFault)
  | started (job : Nat)
  | ended (job : Nat) (crashed : Bool)
  | closed (call : Nat)
  | returned (call : Nat)
  deriving DecidableEq

namespace PoolEvent

def accepts (job : Nat) : PoolEvent → Bool
  | accepted other => other = job
  | _ => false

def refuses (job : Nat) : PoolEvent → Bool
  | refused other _ => other = job
  | _ => false

def starts (job : Nat) : PoolEvent → Bool
  | started other => other = job
  | _ => false

def ends (job : Nat) : PoolEvent → Bool
  | ended other _ => other = job
  | _ => false

end PoolEvent

structure PoolSession where
  pool : WorkerPool Nat
  /-- Shutdowns that have not returned. -/
  shutdowns : List Nat
  next : Nat

namespace PoolSession

def create (name : String) (workers queue : Nat) : PoolSession :=
  ⟨WorkerPool.create name workers queue, [], 0⟩

/-- One act. An act that is not open to the pool changes nothing. -/
def step (session : PoolSession) : PoolAct → PoolSession × List PoolEvent
  | .submit =>
    match session.pool.submit session.next with
    | .ok pool =>
      ({ session with pool, next := session.next + 1 }, [.accepted session.next])
    | .error fault =>
      ({ session with next := session.next + 1 }, [.refused session.next fault])
  | .start job =>
    match session.pool.start? job with
    | some pool => ({ session with pool }, [.started job])
    | none => (session, [])
  | .finish job crashed =>
    if job ∈ session.pool.running then
      ({ session with pool := session.pool.finish job }, [.ended job crashed])
    else
      (session, [])
  | .shutdown =>
    ({ session with
        pool := session.pool.close
        shutdowns := session.shutdowns ++ [session.next]
        next := session.next + 1 }, [.closed session.next])
  | .awaitDrain call =>
    if call ∈ session.shutdowns ∧ session.pool.isDrained then
      ({ session with shutdowns := session.shutdowns.erase call }, [.returned call])
    else
      (session, [])

/-- What an act can come to: nothing, or one event with its change of the session. -/
inductive Change (session : PoolSession) : PoolSession → List PoolEvent → Prop where
  | nothing : Change session session []
  | accepted (isOpen : session.pool.isClosed = false)
      (room : session.pool.inFlight < session.pool.capacity) :
      Change session
        { session with
          pool := { session.pool with waiting := session.pool.waiting ++ [session.next] }
          next := session.next + 1 }
        [.accepted session.next]
  | refused (fault : PoolFault) (answer : session.pool.submit session.next = .error fault) :
      Change session { session with next := session.next + 1 } [.refused session.next fault]
  | started (job : Nat) (member : job ∈ session.pool.waiting)
      (idle : session.pool.running.length < session.pool.workers) :
      Change session
        { session with
          pool := { session.pool with
            waiting := session.pool.waiting.erase job
            running := session.pool.running ++ [job] } }
        [.started job]
  | ended (job : Nat) (crashed : Bool) (member : job ∈ session.pool.running) :
      Change session { session with pool := session.pool.finish job } [.ended job crashed]
  | closed :
      Change session
        { session with
          pool := session.pool.close
          shutdowns := session.shutdowns ++ [session.next]
          next := session.next + 1 }
        [.closed session.next]
  | returned (call : Nat) (drained : session.pool.isDrained = true) :
      Change session { session with shutdowns := session.shutdowns.erase call }
        [.returned call]

theorem step_change (session : PoolSession) (act : PoolAct) :
    Change session (session.step act).1 (session.step act).2 := by
  cases act with
  | submit =>
      cases answer : session.pool.submit session.next with
      | ok pool =>
          obtain ⟨isOpen, room, rfl⟩ := WorkerPool.submit_eq_ok_iff.mp answer
          simpa only [step, answer] using Change.accepted isOpen room
      | error fault => simpa only [step, answer] using Change.refused fault answer
  | start job =>
      cases answer : session.pool.start? job with
      | none => simpa only [step, answer] using Change.nothing
      | some pool =>
          obtain ⟨member, idle, rfl⟩ := WorkerPool.start?_eq_some_iff.mp answer
          simpa only [step, answer] using Change.started job member idle
  | finish job crashed =>
      by_cases member : job ∈ session.pool.running
      · simpa only [step, if_pos member] using Change.ended job crashed member
      · simpa only [step, if_neg member] using Change.nothing
  | shutdown => exact Change.closed
  | awaitDrain call =>
      by_cases drained : call ∈ session.shutdowns ∧ session.pool.isDrained = true
      · simpa only [step, if_pos drained] using Change.returned call drained.2
      · simpa only [step, if_neg drained] using Change.nothing

/-- The acts of a run in turn, with everything that came of them. -/
def run (session : PoolSession) : List PoolAct → PoolSession × List PoolEvent
  | [] => (session, [])
  | act :: acts =>
    let (session, events) := session.step act
    let (session, later) := session.run acts
    (session, events ++ later)

theorem run_append (session : PoolSession) (acts later : List PoolAct) :
    session.run (acts ++ later) =
      (((session.run acts).1.run later).1,
        (session.run acts).2 ++ ((session.run acts).1.run later).2) := by
  induction acts generalizing session with
  | nil => simp [run]
  | cons act acts ih => simp [run, ih]

theorem run_snoc (session : PoolSession) (acts : List PoolAct) (act : PoolAct) :
    session.run (acts ++ [act]) =
      (((session.run acts).1.step act).1,
        (session.run acts).2 ++ ((session.run acts).1.step act).2) := by
  simp [run_append, run]

/-- The books balance: what was accepted waits or has started, what has started
runs or has ended, and each submission was answered once. -/
structure Balanced (session : PoolSession) (events : List PoolEvent) : Prop where
  accepted_eq : ∀ job, events.countP (PoolEvent.accepts job) =
    session.pool.waiting.count job + events.countP (PoolEvent.starts job)
  started_eq : ∀ job, events.countP (PoolEvent.starts job) =
    session.pool.running.count job + events.countP (PoolEvent.ends job)
  answered_once : ∀ job,
    events.countP (PoolEvent.accepts job) + events.countP (PoolEvent.refuses job) ≤ 1
  fresh : ∀ job, session.next ≤ job →
    events.countP (PoolEvent.accepts job) = 0 ∧ events.countP (PoolEvent.refuses job) = 0

theorem balanced_create (name : String) (workers queue : Nat) :
    Balanced (create name workers queue) [] where
  accepted_eq := by simp [create, WorkerPool.create]
  started_eq := by simp [create, WorkerPool.create]
  answered_once := by simp
  fresh := by simp

variable {session after : PoolSession} {events news : List PoolEvent}

/-- What happens without a job moving leaves the books as they are. -/
theorem Balanced.idle (balanced : Balanced session events)
    (waiting_eq : after.pool.waiting = session.pool.waiting)
    (running_eq : after.pool.running = session.pool.running)
    (next_le : session.next ≤ after.next)
    (silent : ∀ job, news.countP (PoolEvent.accepts job) = 0 ∧
      news.countP (PoolEvent.refuses job) = 0 ∧ news.countP (PoolEvent.starts job) = 0 ∧
        news.countP (PoolEvent.ends job) = 0) :
    Balanced after (events ++ news) := by
  refine ⟨fun job => ?_, fun job => ?_, fun job => ?_, fun job later => ?_⟩
  · simpa [silent job, waiting_eq] using balanced.accepted_eq job
  · simpa [silent job, running_eq] using balanced.started_eq job
  · simpa [silent job] using balanced.answered_once job
  · simpa [silent job] using balanced.fresh job (Nat.le_trans next_le later)

/-- One answer to the next submission is the only answer to it. -/
theorem Balanced.answers_next (balanced : Balanced session events) (news : List PoolEvent)
    (answer : ∀ job, news.countP (PoolEvent.accepts job) +
      news.countP (PoolEvent.refuses job) = if session.next = job then 1 else 0) (job : Nat) :
    ((events ++ news).countP (PoolEvent.accepts job) +
        (events ++ news).countP (PoolEvent.refuses job) ≤ 1) ∧
      (session.next + 1 ≤ job →
        (events ++ news).countP (PoolEvent.accepts job) = 0 ∧
          (events ++ news).countP (PoolEvent.refuses job) = 0) := by
  have once := balanced.answered_once job
  have fresh := balanced.fresh job
  have told := answer job
  simp only [List.countP_append]
  split at told
  next same =>
    have unanswered := fresh (Nat.le_of_eq same)
    exact ⟨by omega, by omega⟩
  next different => exact ⟨by omega, fun later => by have := fresh (by omega); omega⟩

theorem Balanced.change (balanced : Balanced session events)
    (change : Change session after news) : Balanced after (events ++ news) := by
  cases change with
  | nothing => exact balanced.idle rfl rfl (Nat.le_refl _) (by simp)
  | accepted isOpen room =>
      have answered := balanced.answers_next [.accepted session.next]
        (by simp [PoolEvent.accepts, PoolEvent.refuses])
      refine ⟨fun job => ?_, fun job => ?_, fun job => (answered job).1,
        fun job => (answered job).2⟩
      · have := balanced.accepted_eq job
        by_cases same : session.next = job <;>
          simp [PoolEvent.accepts, PoolEvent.starts, same] <;> omega
      · simpa [PoolEvent.starts, PoolEvent.ends] using balanced.started_eq job
  | refused fault answer =>
      have answered := balanced.answers_next [.refused session.next fault]
        (by simp [PoolEvent.accepts, PoolEvent.refuses])
      refine ⟨fun job => ?_, fun job => ?_, fun job => (answered job).1,
        fun job => (answered job).2⟩
      · simpa [PoolEvent.accepts, PoolEvent.starts] using balanced.accepted_eq job
      · simpa [PoolEvent.starts, PoolEvent.ends] using balanced.started_eq job
  | started started member idle =>
      have present : 0 < session.pool.waiting.count started := List.count_pos_iff.mpr member
      refine ⟨fun job => ?_, fun job => ?_, fun job => ?_, fun job later => ?_⟩
      · have := balanced.accepted_eq job
        by_cases same : started = job
        · subst same
          simp [PoolEvent.accepts, PoolEvent.starts]
          omega
        · simpa [PoolEvent.accepts, PoolEvent.starts, same, List.count_erase_of_ne,
            Ne.symm same] using this
      · have := balanced.started_eq job
        by_cases same : started = job <;>
          simp [PoolEvent.starts, PoolEvent.ends, same] <;> omega
      · simpa [PoolEvent.accepts, PoolEvent.refuses] using balanced.answered_once job
      · simpa [PoolEvent.accepts, PoolEvent.refuses] using balanced.fresh job later
  | ended ended crashed member =>
      have present : 0 < session.pool.running.count ended := List.count_pos_iff.mpr member
      refine ⟨fun job => ?_, fun job => ?_, fun job => ?_, fun job later => ?_⟩
      · simpa [PoolEvent.accepts, PoolEvent.starts] using balanced.accepted_eq job
      · have := balanced.started_eq job
        by_cases same : ended = job
        · subst same
          simp [PoolEvent.starts, PoolEvent.ends]
          omega
        · simpa [PoolEvent.starts, PoolEvent.ends, same, List.count_erase_of_ne,
            Ne.symm same] using this
      · simpa [PoolEvent.accepts, PoolEvent.refuses] using balanced.answered_once job
      · simpa [PoolEvent.accepts, PoolEvent.refuses] using balanced.fresh job later
  | closed =>
      exact balanced.idle rfl rfl (Nat.le_succ _)
        (by simp [PoolEvent.accepts, PoolEvent.refuses, PoolEvent.starts, PoolEvent.ends])
  | returned call drained =>
      exact balanced.idle rfl rfl (Nat.le_refl _)
        (by simp [PoolEvent.accepts, PoolEvent.refuses, PoolEvent.starts, PoolEvent.ends])

theorem Balanced.run (balanced : Balanced session events) (acts : List PoolAct) :
    Balanced (session.run acts).1 (events ++ (session.run acts).2) := by
  induction acts generalizing session events with
  | nil => simpa [PoolSession.run] using balanced
  | cons act acts ih => simpa [PoolSession.run] using ih (balanced.change (step_change session act))

/-- The books balance after every run of a new pool. -/
theorem balanced_run (name : String) (workers queue : Nat) (acts : List PoolAct) :
    Balanced ((create name workers queue).run acts).1
      ((create name workers queue).run acts).2 := by
  simpa using (balanced_create name workers queue).run acts

end PoolSession

end UnattendedRefresh
