import UnattendedRefresh.Proofs.Pool.Session

/-!
# The permits of a pool

A pool gives out permits of two kinds. A job holds a slot from its admission on,
and besides it a worker while it runs. When its work stops, by itself or by a
crash, it gives the worker back first and the slot after it, and between the two
anything else may happen. Only with its slot has the job left the pool.

No permit is ever lost: those that are free and those that are held are together
as many as the pool was made with. A worker pool is such a pool seen at moments at
which no job is between its two returns.
-/

namespace UnattendedRefresh

structure PermitPool where
  name : String
  capacity : Nat
  freeSlots : Nat
  freeWorkers : Nat
  /-- Jobs with a slot that wait for a worker. -/
  waiting : List Nat
  running : List Nat
  /-- Jobs whose work has stopped, and whether by a crash. They still hold a slot. -/
  leaving : List (Nat × Bool)
  isClosed : Bool

namespace PermitPool

def create (name : String) (workers queue : Nat) : PermitPool :=
  { name, capacity := max workers 1 + queue
    freeSlots := max workers 1 + queue, freeWorkers := max workers 1
    waiting := [], running := [], leaving := [], isClosed := false }

/-- Slots that are taken. -/
def inFlight (pool : PermitPool) : Nat :=
  pool.capacity - pool.freeSlots

/-- Jobs that hold a slot. -/
def jobs (pool : PermitPool) : List Nat :=
  pool.waiting ++ pool.running ++ pool.leaving.map Prod.fst

def submit (pool : PermitPool) (job : Nat) : Except PoolFault PermitPool :=
  if pool.isClosed then .error (.closed pool.name)
  else if pool.freeSlots = 0 then .error (.saturated pool.name pool.capacity)
  else .ok { pool with
    freeSlots := pool.freeSlots - 1
    waiting := pool.waiting ++ [job] }

def start? (pool : PermitPool) (job : Nat) : Option PermitPool :=
  if job ∈ pool.waiting ∧ 0 < pool.freeWorkers then
    some { pool with
      freeWorkers := pool.freeWorkers - 1
      waiting := pool.waiting.erase job
      running := pool.running ++ [job] }
  else
    none

/-- The work of a running job stops, and its worker is free again. -/
def stop? (pool : PermitPool) (job : Nat) (crashed : Bool) : Option PermitPool :=
  if job ∈ pool.running then
    some { pool with
      freeWorkers := pool.freeWorkers + 1
      running := pool.running.erase job
      leaving := pool.leaving ++ [(job, crashed)] }
  else
    none

/-- A job whose work has stopped gives its slot back. -/
def leave? (pool : PermitPool) (job : Nat) (crashed : Bool) : Option PermitPool :=
  if (job, crashed) ∈ pool.leaving then
    some { pool with
      freeSlots := pool.freeSlots + 1
      leaving := pool.leaving.erase (job, crashed) }
  else
    none

def close (pool : PermitPool) : PermitPool :=
  { pool with isClosed := true }

def isDrained (pool : PermitPool) : Bool :=
  pool.isClosed && pool.jobs.isEmpty

variable {pool after : PermitPool} {job : Nat}

theorem submit_of_closed (closed : pool.isClosed = true) :
    pool.submit job = .error (.closed pool.name) := by
  simp [submit, closed]

theorem submit_of_full (isOpen : pool.isClosed = false) (full : pool.freeSlots = 0) :
    pool.submit job = .error (.saturated pool.name pool.capacity) := by
  simp [submit, isOpen, full]

theorem submit_of_free (isOpen : pool.isClosed = false) (free : 0 < pool.freeSlots) :
    pool.submit job = .ok { pool with
      freeSlots := pool.freeSlots - 1
      waiting := pool.waiting ++ [job] } := by
  simp [submit, isOpen, Nat.ne_of_gt free]

theorem submit_eq_ok_iff :
    pool.submit job = .ok after ↔
      pool.isClosed = false ∧ 0 < pool.freeSlots ∧
        after = { pool with
          freeSlots := pool.freeSlots - 1
          waiting := pool.waiting ++ [job] } := by
  cases closed : pool.isClosed with
  | true => simp [submit_of_closed closed]
  | false =>
      rcases Nat.eq_zero_or_pos pool.freeSlots with full | free
      · simp [submit_of_full closed full, full]
      · simp [submit_of_free closed free, free, closed, eq_comm]

end PermitPool

inductive PermitAct where
  | submit
  | start (job : Nat)
  | stop (job : Nat) (crashed : Bool)
  | leave (job : Nat) (crashed : Bool)
  | shutdown
  | awaitDrain (call : Nat)

structure PermitSession where
  pool : PermitPool
  shutdowns : List Nat
  next : Nat

namespace PermitSession

def create (name : String) (workers queue : Nat) : PermitSession :=
  ⟨PermitPool.create name workers queue, [], 0⟩

/-- A move of one job, if it is open to the job. -/
def move (session : PermitSession) (pool? : Option PermitPool) (events : List PoolEvent) :
    PermitSession × List PoolEvent :=
  match pool? with
  | some pool => ({ session with pool }, events)
  | none => (session, [])

def step (session : PermitSession) : PermitAct → PermitSession × List PoolEvent
  | .submit =>
    match session.pool.submit session.next with
    | .ok pool =>
      ({ session with pool, next := session.next + 1 }, [.accepted session.next])
    | .error fault =>
      ({ session with next := session.next + 1 }, [.refused session.next fault])
  | .start job => session.move (session.pool.start? job) [.started job]
  | .stop job crashed => session.move (session.pool.stop? job crashed) []
  | .leave job crashed => session.move (session.pool.leave? job crashed) [.ended job crashed]
  | .shutdown =>
    ({ pool := session.pool.close
       shutdowns := session.shutdowns ++ [session.next]
       next := session.next + 1 }, [.closed session.next])
  | .awaitDrain call =>
    if call ∈ session.shutdowns ∧ session.pool.isDrained then
      ({ session with shutdowns := session.shutdowns.erase call }, [.returned call])
    else
      (session, [])

def run (session : PermitSession) : List PermitAct → PermitSession × List PoolEvent
  | [] => (session, [])
  | act :: acts =>
    let (session, events) := session.step act
    let (session, later) := session.run acts
    (session, events ++ later)

theorem run_append (session : PermitSession) (acts later : List PermitAct) :
    session.run (acts ++ later) =
      (((session.run acts).1.run later).1,
        (session.run acts).2 ++ ((session.run acts).1.run later).2) := by
  induction acts generalizing session with
  | nil => rfl
  | cons act acts ih => simp [run, ih]

end PermitSession

namespace PoolEvent

/-- The accepted jobs that have not ended, after one more event. -/
def revise (jobs : List Nat) : PoolEvent → List Nat
  | accepted job => jobs ++ [job]
  | ended job _ => jobs.erase job
  | _ => jobs

/-- The accepted jobs that have not ended. -/
def unended (events : List PoolEvent) : List Nat :=
  events.foldl revise []

theorem unended_append (events news : List PoolEvent) :
    unended (events ++ news) = news.foldl revise (unended events) :=
  List.foldl_append

end PoolEvent

namespace PermitSession

/-- What an act can come to, with the permits that change hands. -/
inductive Change (session : PermitSession) : PermitSession → List PoolEvent → Prop where
  | nothing : Change session session []
  | accepted (isOpen : session.pool.isClosed = false) (free : 0 < session.pool.freeSlots) :
      Change session
        { session with
          pool := { session.pool with
            freeSlots := session.pool.freeSlots - 1
            waiting := session.pool.waiting ++ [session.next] }
          next := session.next + 1 }
        [.accepted session.next]
  | refused (fault : PoolFault) (answer : session.pool.submit session.next = .error fault) :
      Change session { session with next := session.next + 1 } [.refused session.next fault]
  | started (job : Nat) (member : job ∈ session.pool.waiting)
      (free : 0 < session.pool.freeWorkers) :
      Change session
        { session with
          pool := { session.pool with
            freeWorkers := session.pool.freeWorkers - 1
            waiting := session.pool.waiting.erase job
            running := session.pool.running ++ [job] } }
        [.started job]
  | stopped (job : Nat) (crashed : Bool) (member : job ∈ session.pool.running) :
      Change session
        { session with
          pool := { session.pool with
            freeWorkers := session.pool.freeWorkers + 1
            running := session.pool.running.erase job
            leaving := session.pool.leaving ++ [(job, crashed)] } }
        []
  | left (job : Nat) (crashed : Bool) (member : (job, crashed) ∈ session.pool.leaving) :
      Change session
        { session with
          pool := { session.pool with
            freeSlots := session.pool.freeSlots + 1
            leaving := session.pool.leaving.erase (job, crashed) } }
        [.ended job crashed]
  | closed :
      Change session
        { pool := session.pool.close
          shutdowns := session.shutdowns ++ [session.next]
          next := session.next + 1 }
        [.closed session.next]
  | returned (call : Nat) (drained : session.pool.isDrained = true) :
      Change session { session with shutdowns := session.shutdowns.erase call }
        [.returned call]

theorem step_change (session : PermitSession) (act : PermitAct) :
    Change session (session.step act).1 (session.step act).2 := by
  cases act with
  | submit =>
      cases answer : session.pool.submit session.next with
      | ok pool =>
          obtain ⟨isOpen, free, rfl⟩ := PermitPool.submit_eq_ok_iff.mp answer
          simpa only [step, answer] using Change.accepted isOpen free
      | error fault => simpa only [step, answer] using Change.refused fault answer
  | start job =>
      by_cases startable : job ∈ session.pool.waiting ∧ 0 < session.pool.freeWorkers
      · simpa only [step, move, PermitPool.start?, if_pos startable] using
          Change.started job startable.1 startable.2
      · simpa only [step, move, PermitPool.start?, if_neg startable] using Change.nothing
  | stop job crashed =>
      by_cases member : job ∈ session.pool.running
      · simpa only [step, move, PermitPool.stop?, if_pos member] using
          Change.stopped job crashed member
      · simpa only [step, move, PermitPool.stop?, if_neg member] using Change.nothing
  | leave job crashed =>
      by_cases member : (job, crashed) ∈ session.pool.leaving
      · simpa only [step, move, PermitPool.leave?, if_pos member] using
          Change.left job crashed member
      · simpa only [step, move, PermitPool.leave?, if_neg member] using Change.nothing
  | shutdown => exact Change.closed
  | awaitDrain call =>
      by_cases drained : call ∈ session.shutdowns ∧ session.pool.isDrained = true
      · simpa only [step, if_pos drained] using Change.returned call drained.2
      · simpa only [step, if_neg drained] using Change.nothing

/-- What holds between the permits, the jobs and the record of a pool that was made
with so many workers and places. -/
structure Conserved (workers capacity : Nat) (session : PermitSession)
    (events : List PoolEvent) : Prop where
  capacity_eq : session.pool.capacity = capacity
  slots_eq : session.pool.freeSlots + session.pool.jobs.length = capacity
  workers_eq : session.pool.freeWorkers + session.pool.running.length = workers
  jobs_perm : session.pool.jobs.Perm (PoolEvent.unended events)

theorem conserved_create (name : String) (workers queue : Nat) :
    Conserved (max workers 1) (max workers 1 + queue) (create name workers queue) [] where
  capacity_eq := rfl
  slots_eq := rfl
  workers_eq := by simp [create, PermitPool.create]
  jobs_perm := .refl _

variable {workers capacity : Nat} {session after : PermitSession}
  {events news : List PoolEvent}

/-- Taking a job from one list to the end of the next leaves all jobs where they are. -/
theorem erase_append_perm {job : Nat} {jobs : List Nat} (member : job ∈ jobs)
    (others : List Nat) : (jobs.erase job ++ (others ++ [job])).Perm (jobs ++ others) :=
  calc (jobs.erase job ++ (others ++ [job])).Perm (jobs.erase job ++ job :: others) :=
      (List.perm_append_singleton job others).append_left _
    List.Perm _ (job :: jobs.erase job ++ others) := List.perm_middle
    List.Perm _ (jobs ++ others) := (List.perm_cons_erase member).symm.append_right _

theorem Conserved.change (conserved : Conserved workers capacity session events)
    (change : Change session after news) : Conserved workers capacity after (events ++ news) := by
  obtain ⟨capacity_eq, slots, staff, perm⟩ := conserved
  have unmoved : news.foldl PoolEvent.revise (PoolEvent.unended events) =
      PoolEvent.unended events → session.pool.jobs.Perm (PoolEvent.unended (events ++ news)) := by
    intro same
    rwa [PoolEvent.unended_append, same]
  cases change with
  | nothing => exact ⟨capacity_eq, slots, staff, unmoved rfl⟩
  | accepted isOpen free =>
      have added : (session.pool.waiting ++ [session.next] ++ session.pool.running ++
          session.pool.leaving.map Prod.fst).Perm (session.next :: session.pool.jobs) := by
        simp only [PermitPool.jobs, List.append_assoc, List.singleton_append]
        exact List.perm_middle
      refine ⟨capacity_eq, ?_, staff, ?_⟩
      · have longer := added.length_eq
        rw [List.length_cons] at longer
        simp only [PermitPool.jobs]
        omega
      · rw [PoolEvent.unended_append]
        have last := List.perm_append_singleton session.next session.pool.jobs
        exact added.trans (last.symm.trans (perm.append_right _))
  | refused fault answer => exact ⟨capacity_eq, slots, staff, unmoved rfl⟩
  | started job member free =>
      have moved : (session.pool.waiting.erase job ++ (session.pool.running ++ [job]) ++
          session.pool.leaving.map Prod.fst).Perm session.pool.jobs :=
        (erase_append_perm member _).append_right _
      refine ⟨capacity_eq, ?_, ?_, moved.trans (unmoved rfl)⟩
      · simpa only [PermitPool.jobs, moved.length_eq] using slots
      · simp only [List.length_append, List.length_singleton]
        omega
  | stopped job crashed member =>
      have moved : (session.pool.waiting ++ session.pool.running.erase job ++
          (session.pool.leaving ++ [(job, crashed)]).map Prod.fst).Perm session.pool.jobs := by
        simpa [PermitPool.jobs] using
          (erase_append_perm member (session.pool.leaving.map Prod.fst)).append_left
            session.pool.waiting
      refine ⟨capacity_eq, ?_, ?_, moved.trans (unmoved rfl)⟩
      · simpa only [PermitPool.jobs, moved.length_eq] using slots
      · have shorter := List.length_erase_of_mem member
        have positive := List.length_pos_of_mem member
        simp only [shorter]
        omega
  | left job crashed member =>
      have taken : (job :: (session.pool.waiting ++ session.pool.running ++
          (session.pool.leaving.erase (job, crashed)).map Prod.fst)).Perm session.pool.jobs :=
        List.perm_middle.symm.trans
          (((List.perm_cons_erase member).map Prod.fst).symm.append_left _)
      refine ⟨capacity_eq, ?_, staff, ?_⟩
      · have shorter := taken.length_eq
        rw [List.length_cons] at shorter
        simp only [PermitPool.jobs]
        omega
      · rw [PoolEvent.unended_append]
        exact (List.cons_perm_iff_perm_erase.mp (taken.trans perm)).2
  | closed => exact ⟨capacity_eq, slots, staff, unmoved rfl⟩
  | returned call drained => exact ⟨capacity_eq, slots, staff, unmoved rfl⟩

theorem Conserved.run (conserved : Conserved workers capacity session events)
    (acts : List PermitAct) :
    Conserved workers capacity (session.run acts).1 (events ++ (session.run acts).2) := by
  induction acts generalizing session events with
  | nil => simpa [PermitSession.run] using conserved
  | cons act acts ih =>
      simpa [PermitSession.run] using ih (conserved.change (step_change session act))

end PermitSession

end UnattendedRefresh
