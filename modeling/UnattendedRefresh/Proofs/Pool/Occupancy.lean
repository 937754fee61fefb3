import UnattendedRefresh.Proofs.Pool.Completion
import UnattendedRefresh.Proofs.Pool.Permits

/-!
# The occupancy of a pool

Whatever is done with a pool, and in whatever order jobs stop and give their permits
back, no more jobs run than there are workers, the taken slots are those of the
accepted jobs that have not ended, and a submission is refused exactly if the pool is
closed or all its slots are taken.
-/

namespace UnattendedRefresh

namespace PermitSession

section Closing

variable {session after : PermitSession} {events : List PoolEvent}

theorem Change.name_eq (change : Change session after events) :
    after.pool.name = session.pool.name := by
  cases change <;> rfl

theorem Change.isClosed (change : Change session after events) :
    after.pool.isClosed = true ↔
      session.pool.isClosed = true ∨ ∃ call, .closed call ∈ events := by
  cases change <;> simp [PermitPool.close]

theorem run_name (session : PermitSession) (acts : List PermitAct) :
    (session.run acts).1.pool.name = session.pool.name := by
  induction acts generalizing session with
  | nil => rfl
  | cons act acts ih => simpa [run, (step_change session act).name_eq] using ih (session.step act).1

theorem run_isClosed (session : PermitSession) (acts : List PermitAct) :
    (session.run acts).1.pool.isClosed = true ↔
      session.pool.isClosed = true ∨ ∃ call, .closed call ∈ (session.run acts).2 := by
  induction acts generalizing session with
  | nil => simp [run]
  | cons act acts ih => simp [run, ih, (step_change session act).isClosed, exists_or, or_assoc]

end Closing

/-- What is known of a pool with so many workers and places, whose record is this. -/
structure Occupied (name : String) (workers capacity : Nat) (session : PermitSession)
    (events : List PoolEvent) : Prop where
  running_le : session.pool.running.length ≤ workers
  /-- The slots are held by the accepted jobs that have not ended. -/
  jobs_perm : session.pool.jobs.Perm (PoolEvent.unended events)
  inFlight_eq : session.pool.inFlight = (PoolEvent.unended events).length
  inFlight_le : session.pool.inFlight ≤ capacity
  /-- There are never more free slots than places, so the difference is exact. -/
  freeSlots_le : session.pool.freeSlots ≤ session.pool.capacity
  workers_eq : session.pool.running.length + session.pool.freeWorkers = workers
  isClosed_iff : session.pool.isClosed = true ↔ ∃ call, .closed call ∈ events
  /-- A waiting job can start whenever fewer jobs run than there are workers. -/
  started_iff : ∀ job, (session.step (.start job)).2 = [.started job] ↔
    job ∈ session.pool.waiting ∧ session.pool.running.length < workers
  submit_eq : session.step .submit =
    if session.pool.isClosed then
      ({ session with next := session.next + 1 }, [.refused session.next (.closed name)])
    else if session.pool.inFlight = capacity then
      ({ session with next := session.next + 1 },
        [.refused session.next (.saturated name capacity)])
    else
      ({ session with
          pool := { session.pool with
            freeSlots := session.pool.freeSlots - 1
            waiting := session.pool.waiting ++ [session.next] }
          next := session.next + 1 },
        [.accepted session.next])

variable {name : String} {workers capacity : Nat} {session : PermitSession}
  {events : List PoolEvent}

theorem Conserved.inFlight_eq (conserved : Conserved workers capacity session events) :
    session.pool.inFlight = session.pool.jobs.length := by
  have capacity_eq := conserved.capacity_eq
  have slots := conserved.slots_eq
  rw [PermitPool.inFlight]
  omega

theorem Conserved.started_iff (conserved : Conserved workers capacity session events)
    (job : Nat) : (session.step (.start job)).2 = [.started job] ↔
      job ∈ session.pool.waiting ∧ session.pool.running.length < workers := by
  have staff := conserved.workers_eq
  have free : session.pool.running.length < workers ↔ 0 < session.pool.freeWorkers := by
    omega
  rw [free]
  by_cases startable : job ∈ session.pool.waiting ∧ 0 < session.pool.freeWorkers <;>
    simp [step, move, PermitPool.start?, startable]

theorem Conserved.submit_eq (conserved : Conserved workers capacity session events) :
    session.step .submit =
      if session.pool.isClosed then
        ({ session with next := session.next + 1 },
          [.refused session.next (.closed session.pool.name)])
      else if session.pool.inFlight = capacity then
        ({ session with next := session.next + 1 },
          [.refused session.next (.saturated session.pool.name capacity)])
      else
        ({ session with
            pool := { session.pool with
              freeSlots := session.pool.freeSlots - 1
              waiting := session.pool.waiting ++ [session.next] }
            next := session.next + 1 },
          [.accepted session.next]) := by
  have taken := conserved.inFlight_eq
  have slots := conserved.slots_eq
  cases closed : session.pool.isClosed with
  | true => simp [step, PermitPool.submit_of_closed closed]
  | false =>
      rcases Nat.eq_zero_or_pos session.pool.freeSlots with full | free
      · have all : session.pool.inFlight = capacity := by omega
        simp [step, PermitPool.submit_of_full closed full, all, conserved.capacity_eq]
      · have some : session.pool.inFlight ≠ capacity := by omega
        simp [step, PermitPool.submit_of_free closed free, some]

theorem Conserved.occupied (conserved : Conserved workers capacity session events)
    (sameName : session.pool.name = name)
    (closing : session.pool.isClosed = true ↔ ∃ call, .closed call ∈ events) :
    Occupied name workers capacity session events where
  running_le := by
    have := conserved.workers_eq
    omega
  jobs_perm := conserved.jobs_perm
  inFlight_eq := conserved.inFlight_eq.trans conserved.jobs_perm.length_eq
  inFlight_le := by
    have := conserved.inFlight_eq
    have := conserved.slots_eq
    omega
  freeSlots_le := by
    have := conserved.capacity_eq
    have := conserved.slots_eq
    omega
  workers_eq := (Nat.add_comm _ _).trans conserved.workers_eq
  isClosed_iff := closing
  started_iff := conserved.started_iff
  submit_eq := by rw [conserved.submit_eq, sameName]

theorem occupied_run (name : String) (workers queue : Nat) (acts : List PermitAct) :
    Occupied name (max workers 1) (max workers 1 + queue)
      ((create name workers queue).run acts).1 ((create name workers queue).run acts).2 := by
  have conserved := (conserved_create name workers queue).run acts
  refine conserved.occupied (run_name _ acts) ?_
  simpa [create, PermitPool.create] using run_isClosed (create name workers queue) acts

end PermitSession

/-! ### Jobs that end at once -/

namespace PermitAct

/-- In a worker pool a job that ends gives both permits back in one act. -/
def ofPoolAct : PoolAct → List PermitAct
  | .submit => [.submit]
  | .start job => [.start job]
  | .finish job crashed => [.stop job crashed, .leave job crashed]
  | .shutdown => [.shutdown]
  | .awaitDrain call => [.awaitDrain call]

end PermitAct

namespace WorkerPool

variable {pool : WorkerPool Nat} {job : Nat}

/-- The permits of a worker pool: those are free that no job holds. -/
def permits (pool : WorkerPool Nat) : PermitPool :=
  { name := pool.name, capacity := pool.capacity
    freeSlots := pool.capacity - pool.inFlight
    freeWorkers := pool.workers - pool.running.length
    waiting := pool.waiting, running := pool.running, leaving := []
    isClosed := pool.isClosed }

theorem permits_submit : pool.permits.submit job = (pool.submit job).map permits := by
  cases closed : pool.isClosed with
  | true => simp [submit_of_closed closed, PermitPool.submit, permits, closed, Except.map]
  | false =>
      rcases Nat.lt_or_ge pool.inFlight pool.capacity with room | full
      · have free : 0 < pool.permits.freeSlots := Nat.sub_pos_of_lt room
        rw [submit_of_room closed room, PermitPool.submit_of_free closed free]
        simp only [Except.map, permits, inFlight, List.length_append, List.length_singleton]
        congr 2
        omega
      · have none : pool.permits.freeSlots = 0 := Nat.sub_eq_zero_of_le full
        rw [submit_of_full closed full, PermitPool.submit_of_full closed none]
        rfl

theorem permits_start? (places : pool.inFlight ≤ pool.capacity) :
    pool.permits.start? job = (pool.start? job).map permits := by
  have idle : 0 < pool.permits.freeWorkers ↔ pool.hasIdleWorker = true := by
    rw [hasIdleWorker_iff]
    exact Nat.sub_pos_iff_lt
  by_cases startable : job ∈ pool.waiting ∧ pool.hasIdleWorker = true
  · have shorter := List.length_erase_of_mem startable.1
    have positive := List.length_pos_of_mem startable.1
    rw [start?, if_pos startable, PermitPool.start?, if_pos ⟨startable.1, idle.mpr startable.2⟩]
    simp only [permits, inFlight, Option.map_some, List.length_append, List.length_singleton,
      shorter] at places ⊢
    congr 2
    omega
  · rw [start?, if_neg startable, PermitPool.start?, if_neg (by rwa [idle])]
    rfl

theorem permits_finish (places : pool.inFlight ≤ pool.capacity)
    (staff : pool.running.length ≤ pool.workers) (member : job ∈ pool.running)
    (crashed : Bool) :
    ∃ between, pool.permits.stop? job crashed = some between ∧
      between.leave? job crashed = some (pool.finish job).permits := by
  have shorter := List.length_erase_of_mem member
  have positive := List.length_pos_of_mem member
  refine ⟨_, if_pos member, ?_⟩
  rw [PermitPool.leave?, if_pos (by simp [permits])]
  simp only [permits, finish, inFlight, shorter, List.nil_append, List.erase_cons_head] at places ⊢
  congr 2 <;> omega

theorem permits_isDrained : pool.permits.isDrained = pool.isDrained := by
  rw [Bool.eq_iff_iff, isDrained_iff]
  simp [PermitPool.isDrained, PermitPool.jobs, permits]

end WorkerPool

namespace PoolSession

section Step

variable {session after : PoolSession} {events : List PoolEvent}

theorem Change.inFlight_le (change : Change session after events)
    (places : session.pool.inFlight ≤ session.pool.capacity) :
    after.pool.inFlight ≤ after.pool.capacity := by
  cases change with
  | accepted isOpen room =>
      simp only [WorkerPool.inFlight, List.length_append, List.length_singleton] at room ⊢
      omega
  | started job member idle =>
      have shorter := List.length_erase_of_mem member
      have positive := List.length_pos_of_mem member
      simp only [WorkerPool.inFlight, List.length_append, List.length_singleton] at places ⊢
      omega
  | ended job crashed member =>
      have shorter := List.length_erase_of_mem member
      simp only [WorkerPool.inFlight, WorkerPool.finish] at places ⊢
      omega
  | _ => exact places

theorem run_inFlight_le (session : PoolSession) (acts : List PoolAct)
    (places : session.pool.inFlight ≤ session.pool.capacity) :
    (session.run acts).1.pool.inFlight ≤ (session.run acts).1.pool.capacity := by
  induction acts generalizing session with
  | nil => exact places
  | cons act acts ih => exact ih _ ((step_change session act).inFlight_le places)

def permits (session : PoolSession) : PermitSession :=
  ⟨session.pool.permits, session.shutdowns, session.next⟩

/-- One act of a worker pool, with the permits that change hands. -/
theorem permits_step (places : session.pool.inFlight ≤ session.pool.capacity)
    (staff : session.pool.running.length ≤ session.pool.workers) (act : PoolAct) :
    session.permits.run (PermitAct.ofPoolAct act) =
      ((session.step act).1.permits, (session.step act).2) := by
  cases act with
  | submit =>
      have same : session.pool.permits.submit session.next =
          (session.pool.submit session.next).map WorkerPool.permits :=
        WorkerPool.permits_submit
      cases answer : session.pool.submit session.next <;>
        simp_all [PermitAct.ofPoolAct, PermitSession.run, PermitSession.step, step, permits,
          Except.map]
  | start job =>
      have same : session.pool.permits.start? job =
          (session.pool.start? job).map WorkerPool.permits :=
        WorkerPool.permits_start? places
      cases answer : session.pool.start? job <;>
        simp_all [PermitAct.ofPoolAct, PermitSession.run, PermitSession.step,
          PermitSession.move, step, permits]
  | finish job crashed =>
      by_cases member : job ∈ session.pool.running
      · obtain ⟨between, stopped, left⟩ :=
          WorkerPool.permits_finish places staff member crashed
        simp [PermitAct.ofPoolAct, PermitSession.run, PermitSession.step, PermitSession.move,
          step, permits, member, stopped, left]
      · have stays : session.pool.permits.stop? job crashed = none := if_neg member
        have none : session.pool.permits.leave? job crashed = none :=
          if_neg (by simp [WorkerPool.permits])
        simp [PermitAct.ofPoolAct, PermitSession.run, PermitSession.step, PermitSession.move,
          step, permits, member, stays, none]
  | shutdown => rfl
  | awaitDrain call =>
      by_cases drained : call ∈ session.shutdowns ∧ session.pool.isDrained = true <;>
        simp [PermitAct.ofPoolAct, PermitSession.run, PermitSession.step, step, permits,
          WorkerPool.permits_isDrained, drained]

/-- A run of a worker pool is a run of its permits in which no job is held up between
its two returns. -/
theorem permits_run (places : session.pool.inFlight ≤ session.pool.capacity)
    (staff : session.pool.running.length ≤ session.pool.workers) (acts : List PoolAct) :
    session.permits.run (acts.flatMap PermitAct.ofPoolAct) =
      ((session.run acts).1.permits, (session.run acts).2) := by
  induction acts generalizing session with
  | nil => rfl
  | cons act acts ih =>
      have change := step_change session act
      rw [List.flatMap_cons, PermitSession.run_append, permits_step places staff,
        ih (change.inFlight_le places) (change.running_le staff)]
      rfl

end Step

/-- What is known of a worker pool with so many workers and places. -/
structure Filled (name : String) (workers capacity : Nat) (session : PoolSession)
    (events : List PoolEvent) : Prop where
  running_le : session.pool.running.length ≤ workers
  inFlight_eq : session.pool.inFlight = (PoolEvent.unended events).length
  inFlight_le : session.pool.inFlight ≤ capacity
  permits_inFlight : session.permits.pool.inFlight = session.pool.inFlight
  submit_eq : ∀ job, session.pool.submit job =
    if session.pool.isClosed then .error (.closed name)
    else if session.pool.inFlight = capacity then .error (.saturated name capacity)
    else .ok { session.pool with waiting := session.pool.waiting ++ [job] }

/-- What holds of the permits of a worker pool holds of the pool. -/
theorem filled_of_occupied {name : String} {workers capacity : Nat} {session : PoolSession}
    {events : List PoolEvent}
    (occupied : PermitSession.Occupied name workers capacity session.permits events)
    (name_eq : session.pool.name = name) (capacity_eq : session.pool.capacity = capacity)
    (places : session.pool.inFlight ≤ session.pool.capacity) :
    Filled name workers capacity session events := by
  have same : session.permits.pool.inFlight = session.pool.inFlight :=
    Nat.sub_sub_self places
  refine ⟨occupied.running_le, same ▸ occupied.inFlight_eq, same ▸ occupied.inFlight_le,
    same, fun job => ?_⟩
  subst name_eq capacity_eq
  have full : session.pool.capacity ≤ session.pool.inFlight ↔
      session.pool.inFlight = session.pool.capacity := by omega
  simp only [WorkerPool.submit, full]

/-- In every run of a pool, whoever submits, starts, stops, leaves or shuts down in
whatever order, its permits and its jobs are in order; and so they are in every run of
a worker pool, which is such a run with every job leaving as it stops. -/
theorem pool_occupied (name : String) (workers queue : Nat) :
    (∀ acts : List PermitAct,
      PermitSession.Occupied name (max workers 1) (max workers 1 + queue)
        ((PermitSession.create name workers queue).run acts).1
        ((PermitSession.create name workers queue).run acts).2) ∧
    ∀ acts : List PoolAct,
      (PermitSession.create name workers queue).run (acts.flatMap PermitAct.ofPoolAct) =
          (((create name workers queue).run acts).1.permits,
            ((create name workers queue).run acts).2) ∧
        Filled name (max workers 1) (max workers 1 + queue)
          ((create name workers queue).run acts).1
          ((create name workers queue).run acts).2 := by
  have occupied := PermitSession.occupied_run name workers queue
  refine ⟨occupied, fun acts => ?_⟩
  let fresh := create name workers queue
  have places : fresh.pool.inFlight ≤ fresh.pool.capacity := Nat.zero_le _
  have staff : fresh.pool.running.length ≤ fresh.pool.workers := Nat.zero_le _
  have same : (PermitSession.create name workers queue).run
      (acts.flatMap PermitAct.ofPoolAct) = ((fresh.run acts).1.permits, (fresh.run acts).2) :=
    permits_run places staff acts
  obtain ⟨name_eq, -, capacity_eq⟩ := run_fixed (create name workers queue) acts
  have within := occupied (acts.flatMap PermitAct.ofPoolAct)
  rw [same] at within
  exact ⟨same, filled_of_occupied within name_eq capacity_eq
    (run_inFlight_le _ acts (Nat.zero_le _))⟩

end PoolSession

end UnattendedRefresh
