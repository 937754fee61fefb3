import UnattendedRefresh.Services.Supervisor
import UnattendedRefresh.Text.Quoting

/-!
# Signals

The program runs until a signal tells it to shut down or a service ends, and
then stops every service.
-/

namespace UnattendedRefresh.Services

inductive Signal where
  | interrupt
  | terminate
  deriving DecidableEq

namespace Signal

def message : Signal → String
  | interrupt => "received ctrl+c, gracefully shutting down..."
  | terminate => "received SIGTERM, gracefully shutting down..."

end Signal

namespace Supervisor

def writeSignals (supervisor : Supervisor) (level : Journal.Level) (message : String)
    (fields : List (String × Journal.FieldValue)) : Supervisor :=
  { supervisor with
    entries := supervisor.entries ++ [⟨level, "flywheel::services::signals", message, fields⟩] }

def exitNote (supervisor : Supervisor) (name : String) (exit : Exit) : Supervisor :=
  let service := ("service", Journal.FieldValue.text name)
  let failed (error : String) : Supervisor :=
    supervisor.writeSignals .error "service failed" [service, ("error", .shown error)]
  match exit with
  | .graceful => supervisor.writeSignals .info "service completed gracefully" [service]
  | .completed => supervisor.writeSignals .warn "service completed unexpectedly" [service]
  | .failed message => failed message
  | .crashed => failed "Task panic"

/-- Wait for the first service to end or for a signal, which comes after so many
nanoseconds if it comes. Whether the program may still end well. -/
def untilDisturbed (supervisor : Supervisor) (signal : Option (Signal × Nat)) :
    Supervisor × Bool :=
  match supervisor.watch (signal.map (·.2)) with
  | (after, .idle) => (after.exitNote "none" (.failed "No services to run"), false)
  | (after, .ended name exit) => (after.exitNote name exit, exit = .graceful)
  | (after, .undisturbed) =>
    match signal with
    | some (signal, _) => (after.writeSignals .info signal.message [], true)
    | none => (after, true)

def showNames (names : List String) : String :=
  "[" ++ ", ".intercalate (names.map Text.quote) ++ "]"

/-- Run the services that were started until the program shall end, and shut them
down. Whether that went well. -/
def superintend (supervisor : Supervisor) (signal : Option (Signal × Nat)) (timeout : Duration) :
    Supervisor × Bool :=
  let (disturbed, isWell) := supervisor.untilDisturbed signal
  let (after, pending) := disturbed.shutdown timeout
  if pending.isEmpty then
    (after.writeSignals .info "graceful shutdown complete" [], isWell)
  else
    (after.writeSignals .warn
      ("graceful shutdown elapsed, " ++ toString pending.length
        ++ " service(s) did not complete")
      [("pending_count", .number pending.length),
       ("pending_services", .shown (showNames pending))], false)

end Supervisor

end UnattendedRefresh.Services
