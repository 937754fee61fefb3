import UnattendedRefresh.Json.Value
import UnattendedRefresh.Settings

/-!
# Settings as JSON

Every field is optional and has its default; a field that is present must have
its type exactly. A list of the fields in their order is taken as well, cut
short anywhere.
-/

namespace UnattendedRefresh

namespace Json

def bool? : Json → Option Bool
  | bool value => some value
  | _ => none

def text? : Json → Option String
  | text value => some value
  | _ => none

def natural? (bound : Nat) : Json → Option Nat
  | natural value => if value < bound then some value else none
  | _ => none

def uint64? (value : Json) : Option UInt64 :=
  (value.natural? UInt64.size).map UInt64.ofNat

def uint32? (value : Json) : Option UInt32 :=
  (value.natural? UInt32.size).map UInt32.ofNat

def textSet? : Json → Option (OrderedSet String)
  | list items => (items.mapM text?).map OrderedSet.ofList
  | _ => none

def rate? (entry : String × Json) : Option (TenantId × UInt32) :=
  match Identifier.ofText? entry.1, entry.2.uint32? with
  | some tenant, some rate => some (tenant, rate)
  | _, _ => none

/-- A record from identifiers to rates. Keys count in the order of their bytes:
of two that name one identifier the later holds. -/
def rates? : Json → Option (OrderedMap TenantId UInt32)
  | record fields => ((OrderedMap.ofList fields).entries.mapM rate?).map OrderedMap.ofList
  | _ => none

/-- A value that may be missing, in which case the fallback holds. -/
def orElse {Kind : Type} (read : Json → Option Kind) (fallback : Kind) :
    Option Json → Option Kind
  | none => some fallback
  | some value => read value

end Json

namespace Settings

def ofFields? (enabled interval blacklist rates rate : Option Json) : Option Settings := do
  let enabled ← Json.orElse Json.bool? default.enabled enabled
  let interval ← Json.orElse Json.uint64? default.minSecondsSinceLastRefresh interval
  let blacklist ← Json.orElse Json.textSet? default.blacklistedProviders blacklist
  let rates ← Json.orElse Json.rates? default.perTenantRefreshesPerDay rates
  let rate ← Json.orElse Json.uint32? default.defaultRefreshesPerDay rate
  return ⟨enabled, interval, blacklist, rates, rate⟩

def ofJson? (value : Json) : Option Settings :=
  match value with
  | .record _ =>
    ofFields? (value.field? "enabled") (value.field? "min_seconds_since_last_refresh")
      (value.field? "blacklisted_providers") (value.field? "per_tenant_refreshes_per_day")
      (value.field? "default_refreshes_per_day")
  | .list items =>
    if items.length ≤ 5 then
      ofFields? items[0]? items[1]? items[2]? items[3]? items[4]?
    else
      none
  | _ => none

def toJson (settings : Settings) : Json :=
  .record
    [("enabled", .bool settings.enabled),
     ("min_seconds_since_last_refresh", .natural settings.minSecondsSinceLastRefresh.toNat),
     ("blacklisted_providers", .list (settings.blacklistedProviders.toList.map .text)),
     ("per_tenant_refreshes_per_day",
      .record (settings.perTenantRefreshesPerDay.entries.map fun entry =>
        (entry.1.text, .natural entry.2.toNat))),
     ("default_refreshes_per_day", .natural settings.defaultRefreshesPerDay.toNat)]

end Settings

end UnattendedRefresh
