import UnattendedRefresh.Journal
import UnattendedRefresh.Pool

/-!
# A pool on one thread

A worker pool driven by hand: jobs that end at once, wait to be released or
crash, on a single thread that takes turns in the order in which they became
possible.
-/

namespace UnattendedRefresh

namespace Bench

structure Behaviour where
  holds : Bool
  crashes : Bool

inductive Turn where
  /-- A job that was just accepted asks for a worker. -/
  | arrive
  /-- A job that was given a worker begins. -/
  | begin (id : String)
  /-- A job that was released goes on. -/
  | resume (id : String)
  /-- A shutdown, asked for at this step, closes the pool. -/
  | close (step : Nat)

end Bench

structure Bench where
  pool : WorkerPool String
  behaviours : List (String × Bench.Behaviour)
  unreleased : List String
  held : List String
  /-- How many jobs asked for a worker in vain. -/
  parked : Nat
  ready : List Bench.Turn
  closing : List Nat
  started : List String
  finished : List String
  drained : List Nat
  entries : List Journal.Entry

namespace Bench

def create (name : String) (workers queue : Nat) : Bench :=
  { pool := WorkerPool.create name workers queue
    behaviours := [], unreleased := [], held := [], parked := 0, ready := [], closing := []
    started := [], finished := [], drained := [], entries := [] }

def submit (bench : Bench) (id : String) (behaviour : Behaviour) : Except PoolFault Bench :=
  match bench.pool.submit id with
  | .error fault => .error fault
  | .ok pool =>
    .ok { bench with
      pool
      behaviours := (id, behaviour) :: bench.behaviours
      unreleased := if behaviour.holds then id :: bench.unreleased else bench.unreleased
      ready := bench.ready ++ [.arrive] }

def release? (bench : Bench) (id : String) : Option Bench :=
  if bench.unreleased.contains id then
    some { bench with
      unreleased := bench.unreleased.filter (· ≠ id)
      ready := if bench.held.contains id then bench.ready ++ [.resume id] else bench.ready }
  else
    none

def shutdown (bench : Bench) (step : Nat) : Bench :=
  { bench with ready := bench.ready ++ [.close step] }

def settleShutdowns (bench : Bench) : Bench :=
  if bench.pool.isDrained then
    { bench with drained := bench.drained ++ bench.closing, closing := [] }
  else
    bench

/-- The worker of an ended job goes to the first job that asked in vain. -/
def passWorkerOn (bench : Bench) : Bench :=
  match bench.parked, bench.pool.startEarliest? with
  | parked + 1, some (id, pool) =>
    { bench with pool, parked, ready := bench.ready ++ [.begin id] }
  | _, _ => bench

def finish (bench : Bench) (id : String) (crashes : Bool) : Bench :=
  let bench := { bench with pool := bench.pool.finish id }
  let bench :=
    if crashes then
      { bench with
        entries := bench.entries ++ [Journal.note .error "Pool job panicked"] }
    else
      { bench with finished := bench.finished ++ [id] }
  bench.passWorkerOn.settleShutdowns

def run (bench : Bench) (id : String) : Bench :=
  match bench.behaviours.find? (·.1 = id) with
  | some (_, behaviour) =>
    if bench.unreleased.contains id then { bench with held := id :: bench.held }
    else bench.finish id behaviour.crashes
  | none => bench

def begin (bench : Bench) (id : String) : Bench :=
  run { bench with started := bench.started ++ [id] } id

def take (bench : Bench) : Turn → Bench
  | .arrive =>
    match bench.pool.startEarliest? with
    | some (id, pool) => begin { bench with pool } id
    | none => { bench with parked := bench.parked + 1 }
  | .begin id => bench.begin id
  | .resume id => run { bench with held := bench.held.filter (· ≠ id) } id
  | .close step =>
    settleShutdowns
      { bench with pool := bench.pool.close, closing := bench.closing ++ [step] }

def settle : Nat → Bench → Bench
  | 0, bench => bench
  | fuel + 1, bench =>
    match bench.ready with
    | [] => bench
    | turn :: ready => settle fuel (take { bench with ready } turn)

/-- Turns a bench can have to take: each job arrives, begins and resumes at most
once, and each shutdown closes once. -/
def turnBound (bench : Bench) : Nat :=
  3 * bench.behaviours.length + bench.ready.length + 1

def settleAll (bench : Bench) : Bench :=
  settle bench.turnBound bench

def forget (bench : Bench) : Bench :=
  { bench with started := [], finished := [], drained := [], entries := [] }

-- Outside, a bench and its maker may also be written with the namespace in front.
set_option linter.all false in
export UnattendedRefresh (Bench)

namespace Bench

set_option linter.all false in
export UnattendedRefresh.Bench (create)

end Bench

end Bench

end UnattendedRefresh
