import UnattendedRefresh.Duration
import UnattendedRefresh.Services.Life

/-!
# The supervisor

Starts services, waits until one of them ends, and shuts down those that are
left within a timeout. All of them share the timeout: while one is waited for,
the time of the others runs too. Moments are nanoseconds of one clock.
-/

namespace UnattendedRefresh.Services

structure Spawned where
  name : String
  service : Service
  startedAt : Nat
  isAsked : Bool
  /-- When it has learnt that it was asked to stop. -/
  stopAt : Option Nat

namespace Spawned

def exit? (spawned : Spawned) : Option (Nat × Exit) :=
  (spawned.service.exit? (spawned.stopAt.map (· - spawned.startedAt))).map
    fun (moment, exit) => (spawned.startedAt + moment, exit)

def ask (spawned : Spawned) : Spawned :=
  { spawned with isAsked := true }

def learn (spawned : Spawned) (now : Nat) : Spawned :=
  if spawned.isAsked ∧ spawned.stopAt = none then { spawned with stopAt := some now } else spawned

def exitBy? (spawned : Spawned) (moment : Nat) : Option Exit :=
  (spawned.exit?.filter (·.1 ≤ moment)).map (·.2)

def notices (spawned : Spawned) (moment : Nat) : List (Nat × Notice) :=
  let own := spawned.service.notices (spawned.stopAt.map (· - spawned.startedAt))
    (moment - spawned.startedAt)
  let after := match spawned.stopAt with
    | some stop =>
      if spawned.service.endsBy (some (stop - spawned.startedAt)) then []
      else spawned.service.aftermath.map fun entry => (stop - spawned.startedAt, Notice.wrote entry)
    | none => []
  (own ++ after).map fun (at_, notice) => (spawned.startedAt + at_, notice)

end Spawned

structure Supervisor where
  now : Nat
  /-- The services have done all they do at this moment. -/
  isSettled : Bool
  registered : OrderedMap String Service
  /-- Services that were started and whose end nobody has seen yet. -/
  running : List Spawned
  /-- Services that are no longer waited for. -/
  dismissed : List Spawned
  entries : List Journal.Entry

namespace Supervisor

def create : Supervisor :=
  { now := 0, isSettled := true, registered := OrderedMap.empty, running := [], dismissed := []
    entries := [] }

def write (supervisor : Supervisor) (level : Journal.Level) (message : String)
    (fields : List (String × Journal.FieldValue)) : Supervisor :=
  { supervisor with
    entries := supervisor.entries ++ [⟨level, "flywheel::services::manager", message, fields⟩] }

/-- Register a service, in place of one of the same name. -/
def register (supervisor : Supervisor) (name : String) (service : Service) : Supervisor :=
  { supervisor with registered := supervisor.registered.insert name service }

def settle (supervisor : Supervisor) : Supervisor :=
  { supervisor with
    isSettled := true
    running := supervisor.running.map (·.learn supervisor.now)
    dismissed := supervisor.dismissed.map (·.learn supervisor.now) }

/-- Let time pass up to a moment. Whoever waits for it wakes before the services
that do something at that moment, unless a service woke it. -/
def passTo (supervisor : Supervisor) (moment : Nat) (isSettled : Bool) : Supervisor :=
  { supervisor.settle with now := moment, isSettled }

def doneBy? (supervisor : Supervisor) : Option Nat :=
  if supervisor.isSettled then some supervisor.now
  else if supervisor.now = 0 then none
  else some (supervisor.now - 1)

def spawnAll (supervisor : Supervisor) : Supervisor :=
  let services := supervisor.registered.entries
  let count := services.length
  let spawned := services.map fun (name, service) =>
    (⟨name, service, supervisor.now, false, none⟩ : Spawned)
  let supervisor := services.foldl (fun supervisor (name, _) =>
    supervisor.write .trace "service spawned" [("service", .text name)]) supervisor
  ({ supervisor with
      registered := OrderedMap.empty
      running := supervisor.running ++ spawned }.write .info
    ("spawned " ++ toString count ++ " services") [("service_count", .number count)]).settle

/-! ### Waiting for a service to end -/

inductive Watch where
  | idle
  | ended (name : String) (exit : Exit)
  | undisturbed
  deriving DecidableEq

def endedBy? (moment : Nat) : List Spawned → Option (Spawned × Exit)
  | [] => none
  | spawned :: rest =>
    match spawned.exitBy? moment with
    | some exit => some (spawned, exit)
    | none => endedBy? moment rest

def firstEnd? (services : List Spawned) : Option Nat :=
  (services.filterMap fun spawned => spawned.exit?.map (·.1)).min?

def see (supervisor : Supervisor) (spawned : Spawned) (exit : Exit) : Supervisor × Watch :=
  let supervisor :=
    { supervisor with
      running := supervisor.running.filter (·.name ≠ spawned.name)
      dismissed := supervisor.dismissed ++ [spawned] }
  let supervisor :=
    if exit = .crashed then
      supervisor.write .warn "service task panicked" [("service", .text spawned.name)]
    else
      supervisor
  (supervisor, .ended spawned.name exit)

/-- Wait until a service ends, but not beyond a limit of nanoseconds, if there is
one. -/
def watch (supervisor : Supervisor) (limit : Option Nat) : Supervisor × Watch :=
  if supervisor.running.isEmpty then (supervisor, .idle)
  else
    let supervisor := supervisor.write .info
      ("servicemanager running " ++ toString supervisor.running.length ++ " services") []
    match supervisor.doneBy?.bind fun moment => endedBy? moment supervisor.running with
    | some (spawned, exit) => supervisor.see spawned exit
    | none =>
      let isInTime (moment : Nat) : Bool := match limit with
        | some limit => moment < supervisor.now + limit
        | none => true
      match (firstEnd? supervisor.running).filter isInTime with
      | some moment =>
        let later := supervisor.passTo (max supervisor.now moment) true
        match endedBy? later.now later.running with
        | some (spawned, exit) => later.see spawned exit
        | none => (later, .undisturbed)
      | none =>
        match limit with
        | some 0 => (supervisor, .undisturbed)
        | some limit => (supervisor.passTo (supervisor.now + limit) false, .undisturbed)
        | none => (supervisor, .undisturbed)

/-! ### Shutting down -/

/-- Wait for one service that ends so long after the shutdown began, if ever.
Whether it ended in time, and how much of the time has passed then. -/
def waitFor (timeout elapsed : Nat) : Option Nat → Bool × Nat
  | some finish =>
    if finish ≤ elapsed then (true, elapsed)
    else if finish < timeout then (true, finish)
    else (false, max elapsed timeout)
  | none => (false, max elapsed timeout)

def waitForAll (timeout : Nat) (elapsed : Nat) :
    List (String × Option Nat) → List (String × Bool) × Nat
  | [] => ([], elapsed)
  | (name, finish) :: rest =>
    let (inTime, elapsed) := waitFor timeout elapsed finish
    let (verdicts, elapsed) := waitForAll timeout elapsed rest
    ((name, inTime) :: verdicts, elapsed)

def finishes (now : Nat) (services : List Spawned) : List (String × Option Nat) :=
  services.map fun spawned => (spawned.name, spawned.exit?.map fun exit => exit.1 - now)

def verdictNote (supervisor : Supervisor) (spawned : Spawned) (inTime : Bool) : Supervisor :=
  let service := [("service", Journal.FieldValue.text spawned.name)]
  if ¬ inTime then
    supervisor.write .warn "service did not finish before shutdown timeout" service
  else if spawned.exit?.map (·.2) = some .crashed then
    supervisor.write .warn "service task panicked during shutdown" service
  else
    supervisor.write .debug "service finished" service

/-- Ask all running services to stop and wait for them. The names of those that
did not end in time. -/
def shutdown (supervisor : Supervisor) (timeout : Duration) : Supervisor × List String :=
  let count := supervisor.running.length
  let asked :=
    { supervisor.write .info ("shutting down " ++ toString count ++ " services")
        [("service_count", .number count), ("timeout", .text timeout.text)] with
      running := supervisor.running.map Spawned.ask }
  let waiting := if timeout.nanoseconds = 0 then asked else asked.settle
  let (verdicts, elapsed) :=
    waitForAll timeout.nanoseconds 0 (finishes waiting.now waiting.running)
  let noted := (waiting.running.zip verdicts).foldl
    (fun (noted : Supervisor) (spawned, _, inTime) => noted.verdictNote spawned inTime) waiting
  let pending := (verdicts.filter (! ·.2)).map (·.1)
  ({ noted with
      now := waiting.now + elapsed
      isSettled := waiting.isSettled && (elapsed = 0 || pending.isEmpty)
      running := []
      dismissed := waiting.dismissed ++ waiting.running }, pending)

/-! ### What has happened -/

def notices (supervisor : Supervisor) : List Notice :=
  match supervisor.doneBy? with
  | none => []
  | some moment =>
    ((((supervisor.running ++ supervisor.dismissed).flatMap (·.notices moment)).filter
      (·.1 ≤ moment)).mergeSort (·.1 ≤ ·.1)).map (·.2)

def journal (supervisor : Supervisor) : List Journal.Entry :=
  supervisor.entries ++ entriesOf supervisor.notices

end Supervisor

end UnattendedRefresh.Services
