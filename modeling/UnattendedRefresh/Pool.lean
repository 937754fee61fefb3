/-!
# Worker pools

A pool runs at most `workers` jobs at once and keeps at most `capacity` jobs that
have not ended. Submitting answers at once; a closed pool takes nothing more and is
drained when its last job ends.
-/

namespace UnattendedRefresh

inductive PoolFault where
  | saturated (pool : String) (capacity : Nat)
  | closed (pool : String)
  deriving DecidableEq

namespace PoolFault

def message : PoolFault → String
  | saturated pool capacity =>
    pool ++ " pool is saturated (" ++ toString capacity ++ " jobs in flight)"
  | closed pool => pool ++ " pool is shut down"

end PoolFault

structure WorkerPool (Job : Type) where
  name : String
  workers : Nat
  capacity : Nat
  /-- Accepted jobs that have not started, the earliest first. -/
  waiting : List Job
  running : List Job
  isClosed : Bool

structure PoolStats where
  name : String
  inFlight : Nat
  capacity : Nat
  deriving DecidableEq

namespace WorkerPool

variable {Job : Type}

/-- A pool with at least one worker and a queue behind the workers. -/
def create (name : String) (workers queue : Nat) : WorkerPool Job :=
  { name, workers := max workers 1, capacity := max workers 1 + queue,
    waiting := [], running := [], isClosed := false }

def greatestCapacity : Nat := (1 <<< 61) - 1

def canBeMade (workers queue : Nat) : Bool :=
  max workers 1 + queue ≤ greatestCapacity

/-- Accepted jobs that have not ended. -/
def inFlight (pool : WorkerPool Job) : Nat :=
  pool.waiting.length + pool.running.length

def stats (pool : WorkerPool Job) : PoolStats :=
  ⟨pool.name, pool.inFlight, pool.capacity⟩

/-- Take a job or refuse it; a refusal changes nothing. -/
def submit (pool : WorkerPool Job) (job : Job) : Except PoolFault (WorkerPool Job) :=
  if pool.isClosed then .error (.closed pool.name)
  else if pool.capacity ≤ pool.inFlight then .error (.saturated pool.name pool.capacity)
  else .ok { pool with waiting := pool.waiting ++ [job] }

def hasIdleWorker (pool : WorkerPool Job) : Bool :=
  pool.running.length < pool.workers

section Order

variable [DecidableEq Job]

/-- A waiting job starts if a worker is idle. Which of the waiting jobs asks for a
worker first is not for the pool to say. -/
def start? (pool : WorkerPool Job) (job : Job) : Option (WorkerPool Job) :=
  if job ∈ pool.waiting ∧ pool.hasIdleWorker then
    some { pool with
      waiting := pool.waiting.erase job
      running := pool.running ++ [job] }
  else
    none

def startEarliest? (pool : WorkerPool Job) : Option (Job × WorkerPool Job) :=
  match pool.waiting with
  | [] => none
  | job :: _ => (pool.start? job).map fun pool => (job, pool)

/-- A running job ends, in whatever way. -/
def finish (pool : WorkerPool Job) (job : Job) : WorkerPool Job :=
  { pool with running := pool.running.erase job }

end Order

def close (pool : WorkerPool Job) : WorkerPool Job :=
  { pool with isClosed := true }

/-- Closed, with every accepted job ended. -/
def isDrained (pool : WorkerPool Job) : Bool :=
  pool.isClosed && pool.inFlight = 0

end WorkerPool

end UnattendedRefresh
