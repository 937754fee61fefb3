import UnattendedRefresh.Identifier.Spelling
import UnattendedRefresh.Wheel

/-!
# Refresh settings

The knobs that may change while the program runs: whether it refreshes at all,
how long a fetch keeps a site out, which providers are left alone, and how often
a day each tenant is refreshed.
-/

namespace UnattendedRefresh

structure Settings where
  enabled : Bool
  minSecondsSinceLastRefresh : UInt64
  blacklistedProviders : OrderedSet String
  /-- Refreshes per day of a tenant; zero leaves the tenant out. -/
  perTenantRefreshesPerDay : OrderedMap TenantId UInt32
  defaultRefreshesPerDay : UInt32
  deriving DecidableEq

inductive SettingsFault where
  | defaultAboveCeiling (rate : UInt32)
  | tenantAboveCeiling (tenant : TenantId) (rate : UInt32)
  deriving DecidableEq

namespace SettingsFault

def message : SettingsFault → String
  | defaultAboveCeiling rate =>
    "default_refreshes_per_day is " ++ toString rate.toNat ++ ", above the ceiling of 4"
  | tenantAboveCeiling tenant rate =>
    "refreshes per day for tenant " ++ tenant.text ++ " is " ++ toString rate.toNat
      ++ ", above the ceiling of 4"

end SettingsFault

namespace Settings

def default : Settings :=
  { enabled := true
    minSecondsSinceLastRefresh := 3600
    blacklistedProviders := OrderedSet.empty
    perTenantRefreshesPerDay := OrderedMap.empty
    defaultRefreshesPerDay := 4 }

instance : Inhabited Settings := ⟨default⟩

def refreshesPerDay (settings : Settings) (tenant : TenantId) : UInt32 :=
  (settings.perTenantRefreshesPerDay.find? tenant).getD settings.defaultRefreshesPerDay

def isBlacklisted (settings : Settings) (provider : String) : Bool :=
  settings.blacklistedProviders.contains provider

def greatestIntervalMilliseconds : Nat := 9223372036854775807

/-- How long a fetch keeps a site out, in nanoseconds, up to the longest interval. -/
def minInterval (settings : Settings) : Int :=
  let seconds := settings.minSecondsSinceLastRefresh.toNat
  if seconds ≤ greatestIntervalMilliseconds / 1000 then
    (seconds : Int) * 1000000000
  else
    (greatestIntervalMilliseconds : Int) * 1000000

def tenantAboveCeiling? (settings : Settings) : Option (TenantId × UInt32) :=
  settings.perTenantRefreshesPerDay.entries.find? fun entry => refreshCeiling < entry.2.toNat

def validate (settings : Settings) : Except SettingsFault Unit :=
  if refreshCeiling < settings.defaultRefreshesPerDay.toNat then
    .error (.defaultAboveCeiling settings.defaultRefreshesPerDay)
  else
    match settings.tenantAboveCeiling? with
    | some (tenant, rate) => .error (.tenantAboveCeiling tenant rate)
    | none => .ok ()

end Settings

end UnattendedRefresh
