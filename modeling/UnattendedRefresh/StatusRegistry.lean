import UnattendedRefresh.Calendar
import UnattendedRefresh.Ordered

/-!
# Status of the services

Each service reports its own state under its name, with the instant of the
report.
-/

namespace UnattendedRefresh

inductive ServiceStatus where
  | starting
  | active
  | disabled
  | error
  deriving DecidableEq, Inhabited

namespace ServiceStatus

def text : ServiceStatus → String
  | starting => "starting"
  | active => "active"
  | disabled => "disabled"
  | error => "error"

def ofText? : String → Option ServiceStatus
  | "starting" => some starting
  | "active" => some active
  | "disabled" => some disabled
  | "error" => some error
  | _ => none

end ServiceStatus

structure StatusReport where
  status : ServiceStatus
  updatedAt : Instant
  deriving DecidableEq

abbrev StatusRegistry := OrderedMap String StatusReport

namespace StatusRegistry

def set (registry : StatusRegistry) (name : String) (status : ServiceStatus) (at_ : Instant) :
    StatusRegistry :=
  registry.insert name ⟨status, at_⟩

def get? (registry : StatusRegistry) (name : String) : Option ServiceStatus :=
  (registry.find? name).map (·.status)

def all (registry : StatusRegistry) : List (String × ServiceStatus) :=
  registry.entries.map fun entry => (entry.1, entry.2.status)

end StatusRegistry

end UnattendedRefresh
