import UnattendedRefresh.Pool

/-!
# What the operations of a pool do

Each operation of a worker pool, told by the jobs that wait and run before and
after it. Nothing but `submit` adds a job, nothing but `start?` moves one to a
worker, and nothing but `finish` takes one out.
-/

namespace UnattendedRefresh

namespace WorkerPool

variable {Job : Type} {pool after : WorkerPool Job} {job : Job}

theorem submit_of_closed (closed : pool.isClosed = true) :
    pool.submit job = .error (.closed pool.name) := by
  simp [submit, closed]

theorem submit_of_full (isOpen : pool.isClosed = false)
    (full : pool.capacity ≤ pool.inFlight) :
    pool.submit job = .error (.saturated pool.name pool.capacity) := by
  simp [submit, isOpen, full]

theorem submit_of_room (isOpen : pool.isClosed = false)
    (room : pool.inFlight < pool.capacity) :
    pool.submit job = .ok { pool with waiting := pool.waiting ++ [job] } := by
  simp [submit, isOpen, Nat.not_le.mpr room]

/-- A job is taken exactly if the pool is open and has a place, and then waits
behind the others. -/
theorem submit_eq_ok_iff :
    pool.submit job = .ok after ↔
      pool.isClosed = false ∧ pool.inFlight < pool.capacity ∧
        after = { pool with waiting := pool.waiting ++ [job] } := by
  cases closed : pool.isClosed with
  | true => simp [submit_of_closed closed]
  | false =>
      rcases Nat.lt_or_ge pool.inFlight pool.capacity with room | full
      · simp [submit_of_room closed room, room, closed, eq_comm]
      · simp [submit_of_full closed full, Nat.not_lt.mpr full]

/-- The two reasons for a refusal. -/
theorem submit_eq_error_iff {fault : PoolFault} :
    pool.submit job = .error fault ↔
      (pool.isClosed = true ∧ fault = .closed pool.name) ∨
        (pool.isClosed = false ∧ pool.capacity ≤ pool.inFlight ∧
          fault = .saturated pool.name pool.capacity) := by
  cases closed : pool.isClosed with
  | true => simp [submit_of_closed closed, eq_comm]
  | false =>
      rcases Nat.lt_or_ge pool.inFlight pool.capacity with room | full
      · simp [submit_of_room closed room, Nat.not_le.mpr room]
      · simp [submit_of_full closed full, full, eq_comm]

theorem hasIdleWorker_iff :
    pool.hasIdleWorker = true ↔ pool.running.length < pool.workers := by
  simp [hasIdleWorker]

theorem isDrained_iff :
    pool.isDrained = true ↔
      pool.isClosed = true ∧ pool.waiting = [] ∧ pool.running = [] := by
  simp [isDrained, inFlight]

section Order

variable [DecidableEq Job]

theorem start?_eq_some_iff :
    pool.start? job = some after ↔
      job ∈ pool.waiting ∧ pool.running.length < pool.workers ∧
        after = { pool with
          waiting := pool.waiting.erase job
          running := pool.running ++ [job] } := by
  by_cases startable : job ∈ pool.waiting ∧ pool.hasIdleWorker = true
  · simp [start?, startable, hasIdleWorker_iff.mp startable.2, eq_comm]
  · have notBoth : ¬ (job ∈ pool.waiting ∧ pool.running.length < pool.workers) := by
      rwa [← hasIdleWorker_iff]
    rw [start?, if_neg startable, ← and_assoc]
    simp [notBoth]

theorem start?_isSome_iff :
    (pool.start? job).isSome = true ↔
      job ∈ pool.waiting ∧ pool.running.length < pool.workers := by
  simp [Option.isSome_iff_exists, start?_eq_some_iff]

@[simp]
theorem finish_waiting : (pool.finish job).waiting = pool.waiting :=
  rfl

@[simp]
theorem finish_running : (pool.finish job).running = pool.running.erase job :=
  rfl

end Order

@[simp]
theorem close_waiting : pool.close.waiting = pool.waiting :=
  rfl

@[simp]
theorem close_running : pool.close.running = pool.running :=
  rfl

@[simp]
theorem close_isClosed : pool.close.isClosed = true :=
  rfl

end WorkerPool

end UnattendedRefresh
