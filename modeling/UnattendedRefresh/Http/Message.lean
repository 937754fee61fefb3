import UnattendedRefresh.Json.Value
import UnattendedRefresh.Pool

/-!
# Requests and responses

What the surface is asked and what it answers, with the errors that have a
JSON body.
-/

namespace UnattendedRefresh.Http

structure Request where
  method : String
  target : String

structure Response where
  status : Nat
  allow : Option String
  isJson : Bool
  body : Option Json

namespace Response

def json (status : Nat) (body : Json) : Response :=
  ⟨status, none, true, some body⟩

def plain (status : Nat) : Response :=
  ⟨status, none, false, none⟩

def methodNotAllowed (allow : String) : Response :=
  ⟨405, some allow, false, none⟩

def withoutBody (response : Response) : Response :=
  { response with body := none }

end Response

inductive ErrorCode where
  | invalidUserId
  | invalidMinute
  | shuttingDown
  | internal
  deriving DecidableEq

namespace ErrorCode

def text : ErrorCode → String
  | invalidUserId => "INVALID_USER_ID"
  | invalidMinute => "INVALID_MINUTE"
  | shuttingDown => "SHUTTING_DOWN"
  | internal => "INTERNAL"

def ofText? : String → Option ErrorCode
  | "INVALID_USER_ID" => some invalidUserId
  | "INVALID_MINUTE" => some invalidMinute
  | "SHUTTING_DOWN" => some shuttingDown
  | "INTERNAL" => some internal
  | _ => none

def status : ErrorCode → Nat
  | invalidUserId => 400
  | invalidMinute => 400
  | shuttingDown => 503
  | internal => 500

end ErrorCode

structure ErrorReport where
  code : ErrorCode
  message : String
  deriving DecidableEq

namespace ErrorReport

/-- A closed pool means that the program shuts down. -/
def ofPoolFault (fault : PoolFault) : ErrorReport :=
  match fault with
  | .closed _ => ⟨.shuttingDown, fault.message⟩
  | .saturated _ _ => ⟨.internal, fault.message⟩

def response (report : ErrorReport) : Response :=
  .json report.code.status
    (.record [("code", .text report.code.text), ("message", .text report.message)])

end ErrorReport

end UnattendedRefresh.Http
