import UnattendedRefresh.Proofs.Pool.Operations

/-!
# What decides at the desk of a pool

Whether a pool takes the next job is decided by how many jobs it holds, how many it may
hold and whether it is closed. All of that follows from what was asked of the pool, from
how many of its jobs have ended and from when it was closed. Which jobs run or wait does
not matter.
-/

namespace UnattendedRefresh

structure Desk where
  name : String
  capacity : Nat
  inFlight : Nat
  isClosed : Bool

/-- What comes before a pool, one after another. -/
inductive Dealing (Request : Type) where
  | asked (request : Request)
  | ended
  | closed
  deriving DecidableEq

namespace Desk

variable {Request : Type}

def verdict (desk : Desk) : Except PoolFault Unit :=
  if desk.isClosed then .error (.closed desk.name)
  else if desk.capacity ≤ desk.inFlight then .error (.saturated desk.name desk.capacity)
  else .ok ()

def serve (desk : Desk) : Desk :=
  match desk.verdict with
  | .ok () => { desk with inFlight := desk.inFlight + 1 }
  | .error _ => desk

def deal (desk : Desk) : Dealing Request → Desk
  | .asked _ => desk.serve
  | .ended => { desk with inFlight := desk.inFlight - 1 }
  | .closed => { desk with isClosed := true }

/-- The answers to all that is asked of the desk. -/
def verdicts (desk : Desk) : List (Dealing Request) → List (Except PoolFault Unit)
  | [] => []
  | .asked request :: rest => desk.verdict :: (desk.deal (.asked request)).verdicts rest
  | dealing :: rest => (desk.deal dealing).verdicts rest

theorem verdicts_append (desk : Desk) (dealings later : List (Dealing Request)) :
    desk.verdicts (dealings ++ later) =
      desk.verdicts dealings ++ (dealings.foldl deal desk).verdicts later := by
  induction dealings generalizing desk with
  | nil => rfl
  | cons dealing dealings ih => cases dealing <;> simp [verdicts, ih]

theorem room_of_verdict {desk : Desk} {taken : Unit} (answer : desk.verdict = .ok taken) :
    desk.inFlight < desk.capacity := by
  simp only [verdict] at answer
  split at answer
  next => simp at answer
  next =>
    split at answer
    next => simp at answer
    next room => exact Nat.not_le.mp room

/-- No desk takes more than it may hold. -/
theorem inFlight_le_deal {desk : Desk} (within : desk.inFlight ≤ desk.capacity)
    (dealing : Dealing Request) : (desk.deal dealing).inFlight ≤ (desk.deal dealing).capacity := by
  cases dealing with
  | asked request =>
      cases answer : desk.verdict with
      | error fault => simpa [deal, serve, answer] using within
      | ok _ => simpa [deal, serve, answer] using Nat.succ_le_of_lt (room_of_verdict answer)
  | ended => exact Nat.le_trans (Nat.sub_le _ _) within
  | closed => exact within

theorem inFlight_le_foldl_deal {desk : Desk} (within : desk.inFlight ≤ desk.capacity)
    (dealings : List (Dealing Request)) :
    (dealings.foldl deal desk).inFlight ≤ (dealings.foldl deal desk).capacity := by
  induction dealings generalizing desk with
  | nil => exact within
  | cons dealing dealings ih => exact ih (inFlight_le_deal within dealing)

end Desk

namespace WorkerPool

variable {Job : Type} {pool after : WorkerPool Job} {job : Job}

def desk (pool : WorkerPool Job) : Desk :=
  ⟨pool.name, pool.capacity, pool.inFlight, pool.isClosed⟩

theorem verdict_of_submit_ok (taken : pool.submit job = .ok after) :
    pool.desk.verdict = .ok () := by
  obtain ⟨isOpen, room, -⟩ := submit_eq_ok_iff.mp taken
  simp [Desk.verdict, desk, isOpen, room]

theorem desk_of_submit_ok (taken : pool.submit job = .ok after) :
    after.desk = pool.desk.serve := by
  rw [Desk.serve, verdict_of_submit_ok taken]
  obtain ⟨-, -, rfl⟩ := submit_eq_ok_iff.mp taken
  simp only [desk, inFlight, List.length_append, List.length_singleton, Desk.mk.injEq, true_and,
    and_true]
  omega

theorem verdict_of_submit_error {fault : PoolFault} (refused : pool.submit job = .error fault) :
    pool.desk.verdict = .error fault := by
  rcases submit_eq_error_iff.mp refused with ⟨closed, rfl⟩ | ⟨isOpen, full, rfl⟩
  · simp [Desk.verdict, desk, closed]
  · simp [Desk.verdict, desk, isOpen, full]

theorem serve_of_submit_error {fault : PoolFault} (refused : pool.submit job = .error fault) :
    pool.desk.serve = pool.desk := by
  rw [Desk.serve, verdict_of_submit_error refused]

section Order

variable [DecidableEq Job]

theorem desk_of_start? (taken : pool.start? job = some after) : after.desk = pool.desk := by
  obtain ⟨waits, -, rfl⟩ := start?_eq_some_iff.mp taken
  have positive := List.length_pos_of_mem waits
  simp only [desk, inFlight, List.length_erase_of_mem waits, List.length_append,
    List.length_singleton, Desk.mk.injEq, true_and, and_true]
  omega

theorem desk_finish (runs : job ∈ pool.running) :
    (pool.finish job).desk = { pool.desk with inFlight := pool.inFlight - 1 } := by
  have positive := List.length_pos_of_mem runs
  simp only [desk, inFlight, finish, List.length_erase_of_mem runs, Desk.mk.injEq, true_and,
    and_true]
  omega

end Order

end WorkerPool

end UnattendedRefresh
