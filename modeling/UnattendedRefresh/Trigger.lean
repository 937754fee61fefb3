import UnattendedRefresh.MinutePass

/-!
# The schedule trigger

Minute passes, scheduled refreshes and forced refreshes each have a pool of
their own. A pass feeds the dispatch pool, so a shutdown closes and drains the
passes before it closes the other two.

The trigger is a transition system. Between two moves every task stands at one
point of its procedure; which task moves next, what the collaborators answer and
when they fail is open, so a property of all lists of moves holds for every
interleaving.
-/

namespace UnattendedRefresh

structure PoolSizes where
  passWorkers : Nat
  dispatchWorkers : Nat
  dispatchQueue : Nat
  forcedWorkers : Nat
  forcedQueue : Nat
  deriving DecidableEq

namespace PoolSizes

def default : PoolSizes := ⟨2, 20, 50000, 2, 100⟩

instance : Inhabited PoolSizes := ⟨default⟩

end PoolSizes

inductive Lane where
  | pass
  | dispatch
  | forced
  deriving DecidableEq, Inhabited

inductive Errand where
  | pass (minute : MinuteOfDay)
  | scheduled (candidate : Candidate) (settings : Settings)
  | forced (userId : UserId)
  deriving DecidableEq

inductive Outcome where
  | pass (outcome : PassOutcome)
  | refreshed
  deriving DecidableEq

namespace Errand

def procedure (gate : Gate) : Errand → Procedure Outcome
  | pass minute => (MinutePass.run minute).bind fun outcome => .done (.pass outcome)
  | scheduled candidate settings =>
    (RefreshJob.scheduled gate candidate settings).bind fun () => .done .refreshed
  | forced userId => (RefreshJob.forced gate userId).bind fun () => .done .refreshed

end Errand

/-- A task that has not ended. Without a lane it was called directly and runs on
its caller's time. -/
structure Task where
  number : Nat
  lane : Option Lane
  errand : Errand
  rest : Procedure Outcome
  /-- The question it stands at has been put to a collaborator. -/
  awaiting : Bool

inductive ShutdownStage where
  | drainingPasses
  | drainingRefreshes
  deriving DecidableEq

namespace Question

/-- The questions that the trigger answers itself. -/
def isInternal : Question → Bool
  | snapshot => true
  | enqueue _ _ => true
  | _ => false

end Question

inductive Effect where
  | begun (number : Nat) (errand : Errand)
  | accepted (number : Nat) (lane : Lane)
  | refused (fault : PoolFault)
  | started (number : Nat)
  | called (number : Nat) (question : Question)
  /-- A task went on with an answer to the question it stood at. -/
  | answered (number : Nat) (reply : Reply)
  | reported (number : Nat) (entry : Journal.Entry)
  /-- The task ended; without an outcome if it crashed. -/
  | ended (number : Nat) (outcome : Option Outcome)
  | drained (number : Nat)

inductive Move where
  | replaceSettings (settings : Settings)
  | triggerPass (minute : MinuteOfDay)
  | triggerForced (userId : UserId)
  | runPass (minute : MinuteOfDay)
  | runForced (userId : UserId)
  /-- A waiting job of a lane gets a worker. -/
  | start (lane : Lane) (number : Nat)
  /-- A task writes an entry, has a question answered by the trigger, or ends. -/
  | advance (number : Nat)
  /-- A task puts its question to a collaborator. -/
  | call (number : Nat)
  | answer (number : Nat) (reply : Reply)
  | crash (number : Nat)
  | shutdown
  | advanceShutdown (number : Nat)

structure Trigger where
  gate : Gate
  settings : Settings
  passPool : WorkerPool Nat
  dispatchPool : WorkerPool Nat
  forcedPool : WorkerPool Nat
  tasks : List Task
  shutdowns : List (Nat × ShutdownStage)
  next : Nat

namespace Trigger

def create (gate : Gate) (settings : Settings) (sizes : PoolSizes) : Trigger :=
  { gate, settings
    passPool := WorkerPool.create "minute-pass" sizes.passWorkers 0
    dispatchPool := WorkerPool.create "dispatch" sizes.dispatchWorkers sizes.dispatchQueue
    forcedPool := WorkerPool.create "forced" sizes.forcedWorkers sizes.forcedQueue
    tasks := [], shutdowns := [], next := 0 }

def pool (trigger : Trigger) : Lane → WorkerPool Nat
  | .pass => trigger.passPool
  | .dispatch => trigger.dispatchPool
  | .forced => trigger.forcedPool

def setPool (trigger : Trigger) (lane : Lane) (pool : WorkerPool Nat) : Trigger :=
  match lane with
  | .pass => { trigger with passPool := pool }
  | .dispatch => { trigger with dispatchPool := pool }
  | .forced => { trigger with forcedPool := pool }

def poolStats (trigger : Trigger) : List PoolStats :=
  [trigger.passPool.stats, trigger.dispatchPool.stats, trigger.forcedPool.stats]

def task? (trigger : Trigger) (number : Nat) : Option Task :=
  trigger.tasks.find? (·.number = number)

def addTask (trigger : Trigger) (lane : Option Lane) (errand : Errand) : Trigger :=
  { trigger with
    tasks := trigger.tasks ++ [⟨trigger.next, lane, errand, errand.procedure trigger.gate, false⟩]
    next := trigger.next + 1 }

def resumeTask (trigger : Trigger) (number : Nat) (rest : Procedure Outcome) : Trigger :=
  { trigger with
    tasks := trigger.tasks.map fun task =>
      if task.number = number then { task with rest, awaiting := false } else task }

/-- Take an ended task out, and its job out of the pool that ran it. -/
def removeTask (trigger : Trigger) (task : Task) : Trigger :=
  let trigger := match task.lane with
    | some lane => trigger.setPool lane ((trigger.pool lane).finish task.number)
    | none => trigger
  { trigger with tasks := trigger.tasks.filter (·.number ≠ task.number) }

def submit (trigger : Trigger) (lane : Lane) (errand : Errand) : Except PoolFault Trigger :=
  match (trigger.pool lane).submit trigger.next with
  | .ok pool => .ok ((trigger.setPool lane pool).addTask (some lane) errand)
  | .error fault => .error fault

def admission (trigger : Trigger) (lane : Lane) (errand : Errand) : List Effect :=
  [.begun trigger.next errand, .accepted trigger.next lane]

def submitMove (trigger : Trigger) (lane : Lane) (errand : Errand) : Trigger × List Effect :=
  match trigger.submit lane errand with
  | .ok after => (after, trigger.admission lane errand)
  | .error fault => (trigger, [.refused fault])

/-- Begin an errand on the caller's time. -/
def beginMove (trigger : Trigger) (errand : Errand) : Trigger × List Effect :=
  (trigger.addTask none errand, [.begun trigger.next errand, .started trigger.next])

def startMove (trigger : Trigger) (lane : Lane) (number : Nat) : Trigger × List Effect :=
  match (trigger.pool lane).start? number with
  | some pool => (trigger.setPool lane pool, [.started number])
  | none => (trigger, [])

/-- A task in a pool moves only while a worker of the pool runs it. -/
def isMovable (trigger : Trigger) (task : Task) : Bool :=
  match task.lane with
  | some lane => (trigger.pool lane).running.contains task.number
  | none => true

def answerInternally (trigger : Trigger) (task : Task) :
    (question : Question) → (question.Answer → Procedure Outcome) → Trigger × List Effect
  | .snapshot, resume =>
    (trigger.resumeTask task.number (resume trigger.settings),
      [.answered task.number ⟨.snapshot, trigger.settings⟩])
  | .enqueue candidate settings, resume =>
    match trigger.submit .dispatch (.scheduled candidate settings) with
    | .ok after =>
      (after.resumeTask task.number (resume (.ok ())),
        .answered task.number ⟨.enqueue candidate settings, .ok ()⟩
          :: trigger.admission .dispatch (.scheduled candidate settings))
    | .error fault =>
      (trigger.resumeTask task.number (resume (.error fault)),
        [.answered task.number ⟨.enqueue candidate settings, .error fault⟩, .refused fault])
  | _, _ => (trigger, [])

def advanceTask (trigger : Trigger) (task : Task) : Trigger × List Effect :=
  match task.rest with
  | .done outcome => (trigger.removeTask task, [.ended task.number (some outcome)])
  | .report entry rest =>
    (trigger.resumeTask task.number rest, [.reported task.number entry])
  | .ask question resume => trigger.answerInternally task question resume

def callTask (trigger : Trigger) (task : Task) : Trigger × List Effect :=
  match task.rest with
  | .ask question _ =>
    if question.isInternal || task.awaiting then
      (trigger, [])
    else
      ({ trigger with
          tasks := trigger.tasks.map fun other =>
            if other.number = task.number then { other with awaiting := true } else other },
        [.called task.number question])
  | _ => (trigger, [])

def answerTask (trigger : Trigger) (task : Task) (reply : Reply) : Trigger × List Effect :=
  match task.rest with
  | .ask question resume =>
    if same : reply.question = question ∧ task.awaiting then
      (trigger.resumeTask task.number (resume (same.1 ▸ reply.answer)),
        [.answered task.number reply])
    else
      (trigger, [])
  | _ => (trigger, [])

def withTask (trigger : Trigger) (number : Nat)
    (act : Task → Trigger × List Effect) : Trigger × List Effect :=
  match trigger.task? number with
  | some task => if trigger.isMovable task then act task else (trigger, [])
  | none => (trigger, [])

/-- A task breaks off. Its pool notes that and goes on with the others. -/
def crashTask (trigger : Trigger) (task : Task) : Trigger × List Effect :=
  let notes := match task.lane with
    | some _ => [.reported task.number (Journal.note .error "Pool job panicked")]
    | none => []
  (trigger.removeTask task, notes ++ [.ended task.number none])

def advanceShutdown (trigger : Trigger) (number : Nat) : Trigger × List Effect :=
  match trigger.shutdowns.find? (·.1 = number) with
  | some (_, .drainingPasses) =>
    if trigger.passPool.isDrained then
      ({ trigger with
          dispatchPool := trigger.dispatchPool.close
          forcedPool := trigger.forcedPool.close
          shutdowns := trigger.shutdowns.map fun shutdown =>
            if shutdown.1 = number then (number, .drainingRefreshes) else shutdown }, [])
    else
      (trigger, [])
  | some (_, .drainingRefreshes) =>
    if trigger.dispatchPool.isDrained && trigger.forcedPool.isDrained then
      ({ trigger with shutdowns := trigger.shutdowns.filter (·.1 ≠ number) },
        [.drained number])
    else
      (trigger, [])
  | none => (trigger, [])

/-- One move. A move that is not open to the trigger changes nothing. -/
def step (trigger : Trigger) : Move → Trigger × List Effect
  | .replaceSettings settings => ({ trigger with settings }, [])
  | .triggerPass minute => trigger.submitMove .pass (.pass minute)
  | .triggerForced userId => trigger.submitMove .forced (.forced userId)
  | .runPass minute => trigger.beginMove (.pass minute)
  | .runForced userId => trigger.beginMove (.forced userId)
  | .start lane number => trigger.startMove lane number
  | .advance number => trigger.withTask number fun task => trigger.advanceTask task
  | .call number => trigger.withTask number fun task => trigger.callTask task
  | .answer number reply =>
    trigger.withTask number fun task => trigger.answerTask task reply
  | .crash number => trigger.withTask number fun task => trigger.crashTask task
  | .shutdown =>
    ({ trigger with
        passPool := trigger.passPool.close
        shutdowns := trigger.shutdowns ++ [(trigger.next, .drainingPasses)]
        next := trigger.next + 1 }, [])
  | .advanceShutdown number => trigger.advanceShutdown number

/-- The moves of a run in turn, with everything they did. -/
def run (trigger : Trigger) : List Move → Trigger × List Effect
  | [] => (trigger, [])
  | move :: moves =>
    let (trigger, effects) := trigger.step move
    let (trigger, later) := trigger.run moves
    (trigger, effects ++ later)

end Trigger

end UnattendedRefresh
