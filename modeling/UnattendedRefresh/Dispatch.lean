import UnattendedRefresh.Eligibility
import UnattendedRefresh.Procedure

/-!
# Refreshing one user

Load the user's sites, leave out those that may not be refreshed, obtain a
credential, and ask for all the others in one bulk refresh.
-/

namespace UnattendedRefresh

inductive DispatchOutcome where
  | noUserSites
  /-- Every site was left out; nothing was sent. -/
  | nothingEligible (excluded : Nat)
  | dispatched (refreshed excluded : Nat)
  deriving DecidableEq

inductive DispatchFault where
  | loadUserSites (userId : UserId) (source : Failure)
  | issueCredential (userId : UserId) (source : Failure)
  | refresh (userId : UserId) (count : Nat) (source : Failure)
  deriving DecidableEq

namespace DispatchFault

def message : DispatchFault → String
  | loadUserSites userId _ => "failed to load user-sites for user " ++ userId.text
  | issueCredential userId _ =>
    "failed to issue service credential for user " ++ userId.text
  | refresh userId count _ =>
    "bulk refresh of " ++ toString count ++ " user-sites failed for user " ++ userId.text

def source : DispatchFault → Failure
  | loadUserSites _ source => source
  | issueCredential _ source => source
  | refresh _ _ source => source

end DispatchFault

namespace Dispatch

def exclusionNotes (assessment : Assessment) (sites : List UserSite) : List Journal.Entry :=
  (sites.filter fun site => assessment.evaluate site ≠ .eligible).map fun _ =>
    Journal.note .debug "User-site excluded from refresh"

def send (user : User) (eligible : List UserSite) (excluded : Nat) (force : Bool) :
    Procedure (Except DispatchFault DispatchOutcome) := do
  match ← Procedure.question (.credential user.tenantId user.id) with
  | .error source => return .error (.issueCredential user.id source)
  | .ok credential =>
    let order : RefreshOrder :=
      ⟨user.id, eligible, user.oneOff, credential, Origin.ofForce force⟩
    match ← Procedure.question (.refresh order) with
    | .error source => return .error (.refresh user.id eligible.length source)
    | .ok () =>
      Procedure.note .debug "User-sites refreshed"
      return .ok (.dispatched eligible.length excluded)

/-- Judge the sites that were loaded, all at one instant, and send what is left. -/
def sendEligible (gate : Gate) (user : User) (force : Bool) (settings : Settings)
    (sites : List UserSite) : Procedure (Except DispatchFault DispatchOutcome) := do
  let now : Instant ← Procedure.question .clock
  let assessment : Assessment := ⟨settings, gate, user.oneOff, force, now⟩
  let eligible := assessment.eligibleSites sites
  let excluded := sites.length - eligible.length
  Procedure.reportAll (exclusionNotes assessment sites) do
    if eligible.isEmpty then
      Procedure.note .debug "No eligible user-sites"
      return .ok (.nothingEligible excluded)
    else
      send user eligible excluded force

def refreshUser (gate : Gate) (user : User) (force : Bool) (settings : Settings) :
    Procedure (Except DispatchFault DispatchOutcome) := do
  match ← Procedure.question (.sites user.id) with
  | .error source => return .error (.loadUserSites user.id source)
  | .ok sites =>
    if sites.isEmpty then
      Procedure.note .trace "User has no user-sites"
      return .ok .noUserSites
    else
      sendEligible gate user force settings sites

end Dispatch

end UnattendedRefresh
