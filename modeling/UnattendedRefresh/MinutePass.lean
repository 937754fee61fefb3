import UnattendedRefresh.Dispatch

/-!
# Minute passes and refresh jobs

A minute pass takes one settings snapshot, collects the users on this minute's
arc of every tenant, and queues a refresh for each. A scheduled job carries that
snapshot; a forced job takes its own. No failure of one job reaches another.
-/

namespace UnattendedRefresh

structure PassSummary where
  tenants : Nat
  optedOut : Nat
  failedTenants : Nat
  candidates : Nat
  queued : Nat
  rejected : Nat
  deriving DecidableEq

inductive PassOutcome where
  | disabled
  /-- The tenants could not be listed; nothing was queued. -/
  | failed
  | completed (summary : PassSummary)
  deriving DecidableEq

namespace MinutePass

structure Harvest where
  optedOut : Nat
  failedTenants : Nat
  candidates : List Candidate

namespace Harvest

def empty : Harvest := ⟨0, 0, []⟩

def optOut (harvest : Harvest) : Harvest :=
  { harvest with optedOut := harvest.optedOut + 1 }

def failTenant (harvest : Harvest) : Harvest :=
  { harvest with failedTenants := harvest.failedTenants + 1 }

def add (harvest : Harvest) (tenant : TenantId) (users : List UserId) : Harvest :=
  { harvest with
    candidates := harvest.candidates ++ users.map fun user => ⟨tenant, user⟩ }

end Harvest

def collectTenant (minute : MinuteOfDay) (settings : Settings) (tenant : TenantId)
    (harvest : Harvest) : Procedure (Except WheelFault Harvest) := do
  let frequency := (settings.refreshesPerDay tenant).toNat
  if frequency = 0 then
    Procedure.note .trace "Tenant opted out of scheduled refreshes"
    return .ok harvest.optOut
  else
    match Wheel.dueRange frequency minute with
    | .error fault => return .error fault
    | .ok range =>
      Procedure.reportAll (Wheel.clampNotice frequency) do
        match ← Procedure.question (.usersInRange tenant range) with
        | .ok users =>
          Procedure.note .trace "Tenant candidates"
          return .ok (harvest.add tenant users)
        | .error _ =>
          Procedure.note .error "Failed to list candidate users for tenant"
          return .ok harvest.failTenant

/-- Go through the tenants; a tenant that fails is skipped. -/
def collect (minute : MinuteOfDay) (settings : Settings) :
    List TenantId → Harvest → Procedure (Except WheelFault Harvest)
  | [], harvest => return .ok harvest
  | tenant :: rest, harvest => do
    match ← collectTenant minute settings tenant harvest with
    | .error fault => return .error fault
    | .ok harvest => collect minute settings rest harvest

def enqueueAll (settings : Settings) :
    List Candidate → Nat → Nat → Procedure (Nat × Nat)
  | [], queued, rejected => return (queued, rejected)
  | candidate :: rest, queued, rejected => do
    match ← Procedure.question (.enqueue candidate settings) with
    | .ok () => enqueueAll settings rest (queued + 1) rejected
    | .error _ =>
      Procedure.note .warn "Failed to queue user refresh"
      enqueueAll settings rest queued (rejected + 1)

def abandon : Procedure PassOutcome := do
  Procedure.note .error "Minute pass failed"
  return .failed

/-- Select the users of a minute across all tenants and queue a refresh for each. -/
def run (minute : MinuteOfDay) : Procedure PassOutcome := do
  let settings : Settings ← Procedure.question .snapshot
  if settings.enabled then
    match ← Procedure.question .tenants with
    | .error _ => abandon
    | .ok tenants =>
      match ← collect minute settings tenants Harvest.empty with
      | .error _ => abandon
      | .ok harvest =>
        let (queued, rejected) ← enqueueAll settings harvest.candidates 0 0
        Procedure.note .info "Minute pass complete"
        return .completed
          { tenants := tenants.length
            optedOut := harvest.optedOut
            failedTenants := harvest.failedTenants
            candidates := harvest.candidates.length
            queued, rejected }
  else
    Procedure.note .info "Flywheel disabled, skipping minute pass"
    return .disabled

end MinutePass

namespace RefreshJob

/-- The scheduled refresh of one candidate. Every failure stops here. -/
def scheduled (gate : Gate) (candidate : Candidate) (settings : Settings) :
    Procedure Unit := do
  match ← Procedure.question (.user candidate.userId) with
  | .error _ => Procedure.note .warn "Scheduled refresh failed"
  | .ok none => Procedure.note .debug "Candidate user no longer exists"
  | .ok (some user) =>
    if user.isBlocked then
      Procedure.note .debug "Candidate user is blocked, skipping"
    else
      match ← Dispatch.refreshUser gate user false settings with
      | .error _ => Procedure.note .warn "Scheduled refresh failed"
      | .ok _ => Procedure.note .trace "Scheduled refresh finished"

/-- Refresh one user now, whatever the wheel says and past the rules that an
operator may waive. -/
def forced (gate : Gate) (userId : UserId) : Procedure Unit := do
  let settings : Settings ← Procedure.question .snapshot
  match ← Procedure.question (.user userId) with
  | .error _ => Procedure.note .error "Failed to load user for forced refresh"
  | .ok none => Procedure.note .info "Forced refresh requested for unknown user"
  | .ok (some user) =>
    if user.isBlocked then
      Procedure.note .info "User is blocked, ignoring forced refresh"
    else
      match ← Dispatch.refreshUser gate user true settings with
      | .error _ => Procedure.note .warn "Forced refresh failed"
      | .ok _ => Procedure.note .info "Forced refresh complete"

end RefreshJob

end UnattendedRefresh
