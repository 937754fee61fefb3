import UnattendedRefresh.Journal
import UnattendedRefresh.StatusRegistry

/-!
# The life of a service

A service works until it is asked to stop, and then stops. Either piece of work
takes its time, if it ends at all, and ends well, badly or by breaking off. A
service whose work ends before it is asked to stop has failed its purpose, even
if it ends well. Moments are nanoseconds since the service began.
-/

namespace UnattendedRefresh.Services

inductive Ending where
  | completed
  | failed (message : String)
  | crashed
  deriving DecidableEq, Inhabited

inductive Notice where
  | wrote (entry : Journal.Entry)
  | reported (name : String) (status : ServiceStatus)
  deriving DecidableEq

structure Work where
  /-- How long the work takes; none if it never ends. -/
  span : Option Nat
  ending : Ending
  /-- What the work does up to a moment, each with its own moment. -/
  notices : Nat → List (Nat × Notice)

namespace Work

def silent (span : Option Nat) (ending : Ending) : Work :=
  ⟨span, ending, fun _ => []⟩

def opening (span : Option Nat) (ending : Ending) (notices : List Notice) : Work :=
  ⟨span, ending, fun _ => notices.map fun notice => (0, notice)⟩

end Work

structure Service where
  name : String
  run : Work
  stop : Work
  /-- How it stops if it never ran. -/
  stopUnstarted : Work
  /-- What is written by others once it has been asked to stop. -/
  aftermath : List Journal.Entry

inductive Exit where
  | graceful
  /-- Its work ended although nobody asked for it. -/
  | completed
  | failed (message : String)
  | crashed
  deriving DecidableEq, Inhabited

namespace Exit

def ofRun : Ending → Exit
  | .completed => completed
  | .failed message => failed message
  | .crashed => crashed

def ofStop : Ending → Exit
  | .completed => graceful
  | .failed message => failed message
  | .crashed => crashed

end Exit

namespace Service

def note (service : Service) (level : Journal.Level) (message : String) : Notice :=
  .wrote ⟨level, "flywheel::services", message, [("service", .text service.name)]⟩

def noteError (service : Service) (message error : String) : Notice :=
  .wrote ⟨.error, "flywheel::services", message,
    [("service", .text service.name), ("error", .shown error)]⟩

def endsBy (service : Service) (stopAt : Option Nat) : Bool :=
  match service.run.span, stopAt with
  | some span, some stop => span ≤ stop
  | some _, none => true
  | none, _ => false

/-- When and how a service ends that is asked to stop at a moment, or never. -/
def exit? (service : Service) (stopAt : Option Nat) : Option (Nat × Exit) :=
  if service.endsBy stopAt then
    service.run.span.map fun span => (span, Exit.ofRun service.run.ending)
  else
    match stopAt with
    | some stop =>
      service.stop.span.map fun span => (stop + span, Exit.ofStop service.stop.ending)
    | none => none

def runNotices (service : Service) : List Notice :=
  match service.run.ending with
  | .completed => [service.note .warn "service completed unexpectedly"]
  | .failed message => [service.noteError "service failed" message]
  | .crashed => []

def stopNotices (service : Service) : List Notice :=
  match service.stop.ending with
  | .completed => [service.note .info "service shutdown completed"]
  | .failed message => [service.noteError "service shutdown failed" message]
  | .crashed => []

/-- Everything a service does until it ends, as far as up to a moment. -/
def notices (service : Service) (stopAt : Option Nat) (moment : Nat) : List (Nat × Notice) :=
  let opening := (0, service.note .info "service started")
  let later :=
    if service.endsBy stopAt then
      let span := service.run.span.getD 0
      service.run.notices (min moment span) ++ service.runNotices.map fun notice => (span, notice)
    else
      match stopAt with
      | none => service.run.notices moment
      | some stop =>
        service.run.notices (min moment stop)
          ++ (stop, service.note .info "shutting down service")
          :: (service.stop.notices (moment - stop)).map (fun (at_, notice) => (stop + at_, notice))
          ++ match service.stop.span with
            | some span => service.stopNotices.map fun notice => (stop + span, notice)
            | none => []
  (opening :: later).filter (·.1 ≤ moment)

end Service

structure Solo where
  exit : Exit
  notices : List Notice

/-- Let a service run on its own until it ends; none if it never does. -/
def Service.solo? (service : Service) (stopAt : Option Nat) : Option Solo :=
  (service.exit? stopAt).map fun (moment, exit) =>
    ⟨exit, (service.notices stopAt moment).map (·.2)⟩

def entriesOf (notices : List Notice) : List Journal.Entry :=
  notices.filterMap fun
    | .wrote entry => some entry
    | .reported _ _ => none

def statusesOf (notices : List Notice) (registry : StatusRegistry) : StatusRegistry :=
  notices.foldl (fun registry notice =>
    match notice with
    | .wrote _ => registry
    | .reported name status => registry.set name status default) registry

end UnattendedRefresh.Services
