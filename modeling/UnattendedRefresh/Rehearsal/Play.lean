import UnattendedRefresh.Rehearsal.Stage

/-!
# Rehearsing the trigger

The trigger run against a stage on a single thread. Tasks take turns in the
order in which they became possible, and each goes on until it ends or has to
wait.
-/

namespace UnattendedRefresh.Rehearsal

inductive Turn where
  /-- A job that was just accepted asks for a worker of its lane. -/
  | arrive (lane : Lane)
  | resume (number : Nat)
  /-- A shutdown looks whether it can go on. -/
  | shutdown (number : Nat)

inductive Return where
  | outcome (outcome : Outcome)
  | drained

structure Play where
  trigger : Trigger
  stage : Stage
  ready : List Turn
  /-- Tasks that wait at a held call, the earliest first. -/
  held : List (Hold × Nat)
  /-- Lanes in which a job asked for a worker in vain, once for each. -/
  parked : List Lane
  /-- Calls since the record was last cleared, the latest first. -/
  calls : List Question
  entries : List Journal.Entry
  returns : List (Nat × Return)

namespace Play

def create (trigger : Trigger) (stage : Stage) : Play :=
  { trigger, stage, ready := [], held := [], parked := [], calls := [], entries := []
    returns := [] }

def enqueueTurn (play : Play) (turn : Turn) : Play :=
  { play with ready := play.ready ++ [turn] }

def startEarliest? (play : Play) (lane : Lane) : Option (Nat × Play) :=
  match (play.trigger.pool lane).waiting with
  | [] => none
  | number :: _ =>
    match play.trigger.step (.start lane number) with
    | (trigger, [.started number]) => some (number, { play with trigger })
    | _ => none

/-- A free worker goes to the first job of its lane that asked in vain. -/
def passWorkerOn (play : Play) (lane : Lane) : Play :=
  if play.parked.contains lane then
    match play.startEarliest? lane with
    | some (number, after) =>
      enqueueTurn { after with parked := play.parked.erase lane } (.resume number)
    | none => play
  else
    play

def wakeShutdowns (play : Play) : Play :=
  { play with
    ready := play.ready ++ play.trigger.shutdowns.map fun shutdown => .shutdown shutdown.1 }

def note (play : Play) : Effect → Play
  | .accepted _ lane => play.enqueueTurn (.arrive lane)
  | .called _ question => { play with calls := question :: play.calls }
  | .reported _ entry => { play with entries := entry :: play.entries }
  | .ended number (some outcome) =>
    { play with returns := (number, .outcome outcome) :: play.returns }
  | .drained number => { play with returns := (number, .drained) :: play.returns }
  | .begun _ _ => play
  | .refused _ => play
  | .started _ => play
  | .answered _ _ => play
  | .ended _ none => play

def move (play : Play) (move : Move) : Play :=
  let (trigger, effects) := play.trigger.step move
  effects.foldl note { play with trigger }

def lastMove (play : Play) (task : Task) (move : Move) : Play :=
  let play := play.move move
  match task.lane with
  | some lane => (play.passWorkerOn lane).wakeShutdowns
  | none => play

def continue_ : Nat → Nat → Play → Play
  | 0, _, play => play
  | fuel + 1, number, play =>
    match play.trigger.task? number with
    | none => play
    | some task =>
      match task.rest with
      | .done _ => play.lastMove task (.advance number)
      | .report _ _ => continue_ fuel number (play.move (.advance number))
      | .ask question _ =>
        if question.isInternal then
          continue_ fuel number (play.move (.advance number))
        else
          let response :=
            if task.awaiting then play.stage.respondNow question
            else play.stage.respond question
          let play := play.move (.call number)
          match response with
          | .answer value => continue_ fuel number (play.move (.answer number ⟨question, value⟩))
          | .wait hold => { play with held := play.held ++ [(hold, number)] }
          | .crash => play.lastMove task (.crash number)

def take (fuel : Nat) (play : Play) : Turn → Play
  | .arrive lane =>
    match play.startEarliest? lane with
    | some (number, after) => continue_ fuel number after
    | none => { play with parked := play.parked ++ [lane] }
  | .resume number => continue_ fuel number play
  | .shutdown number =>
    (play.move (.advanceShutdown number)).move (.advanceShutdown number)

def settle : Nat → Play → Play
  | 0, play => play
  | fuel + 1, play =>
    match play.ready with
    | [] => play
    | turn :: ready => settle fuel (take (fuel + 1) { play with ready } turn)

def patience : Nat := 1000000

def settleAll (play : Play) : Play :=
  settle patience play

def begin (play : Play) (move : Move) : Play :=
  let number := play.trigger.next
  (play.move move).enqueueTurn (.resume number)

def runPass (play : Play) (minute : MinuteOfDay) : Play :=
  play.begin (.runPass minute)

def runForced (play : Play) (userId : UserId) : Play :=
  play.begin (.runForced userId)

def shutdown (play : Play) : Play :=
  let number := play.trigger.next
  (play.move .shutdown).enqueueTurn (.shutdown number)

def submit (play : Play) (move : Move) : Except PoolFault Play :=
  match play.trigger.step move with
  | (_, [.refused fault]) => .error fault
  | _ => .ok (play.move move)

def release (play : Play) (hold : Hold) : Play :=
  let woken := play.held.filter (·.1 = hold)
  { play with
    stage := { play.stage with holds := play.stage.holds.filter (· ≠ hold) }
    held := play.held.filter (·.1 ≠ hold)
    ready := play.ready ++ woken.map fun entry => .resume entry.2 }

def forget (play : Play) : Play :=
  { play with calls := [], entries := [], returns := [] }

end Play

end UnattendedRefresh.Rehearsal
