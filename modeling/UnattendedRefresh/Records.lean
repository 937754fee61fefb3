import UnattendedRefresh.Calendar
import UnattendedRefresh.Identifier

/-!
# Users and their sites

The records the refresh decisions are made from.
-/

namespace UnattendedRefresh

/-- Whether a site may be refreshed without the user being present. -/
inductive NeededAction where
  | proceed
  | blocked
  deriving DecidableEq, Inhabited

structure UserSite where
  id : SiteId
  userId : UserId
  provider : String
  lastDataFetch : Option Instant
  migrating : Bool
  neededAction : NeededAction
  deriving DecidableEq, Inhabited

inductive UserStatus where
  | active
  | blocked
  deriving DecidableEq, Inhabited

structure User where
  id : UserId
  tenantId : TenantId
  status : UserStatus
  /-- Data for this user may be fetched at most once, ever. -/
  oneOff : Bool
  deriving DecidableEq, Inhabited

namespace User

def isBlocked (user : User) : Bool :=
  user.status = .blocked

end User

/-- A user on the arc of the current minute. -/
structure Candidate where
  tenantId : TenantId
  userId : UserId
  deriving DecidableEq, Inhabited

structure Credential where
  accessToken : String
  deriving DecidableEq, Inhabited

namespace Credential

/-- The text shown in reports: the token stays hidden. -/
def report (_credential : Credential) : String :=
  "Credential"

end Credential

inductive Origin where
  | schedule
  | operator
  deriving DecidableEq, Inhabited

namespace Origin

def ofForce (force : Bool) : Origin :=
  if force then operator else schedule

end Origin

abbrev Gate := UserSite → Bool

namespace Gate

def neededAction : Gate :=
  fun site => site.neededAction = .proceed

def allowAll : Gate := fun _ => true

def denyAll : Gate := fun _ => false

end Gate

end UnattendedRefresh
