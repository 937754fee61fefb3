import UnattendedRefresh.Records
import UnattendedRefresh.Settings

/-!
# Eligibility

Whether one site may take part in a refresh. The rules are tried in a fixed
order and the first that applies is the reason given. An operator's force waives
all but the first two.
-/

namespace UnattendedRefresh

inductive Exclusion where
  | blacklisted
  | complianceExhausted
  | actionRequired
  | throttled
  | migrating
  deriving DecidableEq, Inhabited

namespace Exclusion

def text : Exclusion → String
  | blacklisted => "blacklisted"
  | complianceExhausted => "compliance_exhausted"
  | actionRequired => "action_required"
  | throttled => "throttled"
  | migrating => "migrating"

end Exclusion

inductive Verdict where
  | eligible
  | excluded (reason : Exclusion)
  deriving DecidableEq, Inhabited

/-- What the sites of one user are judged by: one settings snapshot, a gate, the
user's one-off flag, whether an operator insists, and the instant. -/
structure Assessment where
  settings : Settings
  gate : Gate
  oneOff : Bool
  force : Bool
  now : Instant

namespace Assessment

def isThrottled (assessment : Assessment) (site : UserSite) : Bool :=
  match site.lastDataFetch with
  | some last => assessment.now.since last < assessment.settings.minInterval
  | none => false

def exclusion? (assessment : Assessment) (site : UserSite) : Option Exclusion :=
  if assessment.settings.isBlacklisted site.provider then some .blacklisted
  else if assessment.oneOff ∧ site.lastDataFetch.isSome then some .complianceExhausted
  else if assessment.force then none
  else if ¬ assessment.gate site then some .actionRequired
  else if assessment.isThrottled site then some .throttled
  else if site.migrating then some .migrating
  else none

def evaluate (assessment : Assessment) (site : UserSite) : Verdict :=
  match assessment.exclusion? site with
  | some reason => .excluded reason
  | none => .eligible

def eligibleSites (assessment : Assessment) (sites : List UserSite) : List UserSite :=
  sites.filter fun site => assessment.evaluate site = .eligible

end Assessment

end UnattendedRefresh
