import UnattendedRefresh.Calendar
import UnattendedRefresh.Pool
import UnattendedRefresh.Services.Life

/-!
# The minute clock

Triggers a minute pass at every whole minute. The clock sleeps until the minute
is over, reads the time, triggers the pass of the minute it has read, and goes
back to sleep. Passes that are still running make it skip a minute; a pool that
is closed ends it.
-/

namespace UnattendedRefresh.Services.Clock

def name : String := "clock"

def note (level : Journal.Level) (message : String) : Journal.Entry :=
  ⟨level, "flywheel::services::clock", message, []⟩

def answerNote : Except PoolFault Unit → Journal.Entry
  | .ok () => note .debug "Minute pass queued"
  | .error (.saturated _ _) => note .warn "Previous minute passes still running, skipping"
  | .error (.closed _) => note .warn "Minute pass pool closed, stopping clock"

def goesOn : Except PoolFault Unit → Bool
  | .error (.closed _) => false
  | _ => true

/-- One turn of the clock: how much too late it wakes, in nanoseconds, how the
trigger answers, and how long it then takes until the time is read again. -/
structure Turn where
  lateness : Nat
  answer : Except PoolFault Unit
  pause : Nat

def minutes (now : Instant) : List Turn → List MinuteOfDay
  | [] => []
  | turn :: rest =>
    let awake := now.after (now.untilNextMinute + turn.lateness)
    let minute := MinuteOfDay.ofInstant awake
    if goesOn turn.answer then minute :: minutes (awake.after turn.pause) rest else [minute]

/-- The moments at which a clock fires that waits for a first time and then always for
another, as far as up to a moment. -/
def fired (first wait moment : Nat) : List Nat :=
  (List.range ((moment + wait - first) / wait)).map fun count => first + count * wait

/-- What the clock does at each of them. -/
def firings (first wait : Nat) (notices : List Notice) (moment : Nat) : List (Nat × Notice) :=
  (fired first wait moment).flatMap fun at_ => notices.map fun notice => (at_, notice)

/-- The work of a clock that gets the same answer each time, with what each pass
writes. -/
def run (first wait : Nat) (answer : Except PoolFault Unit) (pass : List Journal.Entry) : Work :=
  let opening : Nat × Notice := (0, .reported name .active)
  let firing := (answerNote answer :: pass).map Notice.wrote
  if goesOn answer then
    ⟨none, .completed, fun moment => opening :: firings first wait firing moment⟩
  else
    ⟨some first, .completed, fun moment => opening :: firings first wait firing (min moment first)⟩

def stop : Work :=
  .opening (some 0) .completed [.reported name .disabled]

def service (first wait : Nat) (answer : Except PoolFault Unit) (pass : List Journal.Entry) :
    Service :=
  { name, run := run first wait answer pass, stop, stopUnstarted := stop, aftermath := [] }

end UnattendedRefresh.Services.Clock
