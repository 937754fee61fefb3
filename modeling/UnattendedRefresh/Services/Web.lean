import UnattendedRefresh.Services.Life

/-!
# The web service

Listens at its port until it is asked to stop.
-/

namespace UnattendedRefresh.Services.Web

def name : String := "web"

def note (level : Journal.Level) (message : String)
    (fields : List (String × Journal.FieldValue)) : Journal.Entry :=
  ⟨level, "flywheel::services::web", message, ("service", .text name) :: fields⟩

def address (port : UInt16) : String :=
  "0.0.0.0:" ++ toString port.toNat

def listening (port : UInt16) : Journal.Entry :=
  note .info "web server listening"
    [("address", .shown (address port)),
     ("link", .text ("http://localhost:" ++ toString port.toNat))]

/-- Listen, unless somebody else does so at the port. -/
def run (port : UInt16) (portIsFree : Bool) : Work :=
  if portIsFree then
    .opening none .completed [.reported name .active, .wrote (listening port)]
  else
    .silent (some 0) (.failed ("failed to bind web server to " ++ address port))

def stop : Work :=
  .opening (some 0) .completed [.reported name .disabled]

def stopUnstarted : Work :=
  .opening (some 0) .completed
    [.reported name .disabled,
     .wrote (note .warn "no shutdown channel found, cannot trigger graceful shutdown" [])]

def service (port : UInt16) (portIsFree : Bool) : Service :=
  { name, run := run port portIsFree, stop, stopUnstarted
    aftermath := [note .trace "graceful shutdown signal received" []] }

end UnattendedRefresh.Services.Web
