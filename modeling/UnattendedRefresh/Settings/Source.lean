import UnattendedRefresh.Config.Reading
import UnattendedRefresh.Config.Variables
import UnattendedRefresh.Settings.Json
import UnattendedRefresh.Toml.Reader

/-!
# Where settings come from

Three layers, the later over the earlier: the defaults, a settings file, and the
variables that begin with `FLYWHEEL_`. What they make together is read as
settings, and rates above the ceiling are refused.
-/

namespace UnattendedRefresh.Settings

open Config

/-- Take one entry over settings; other keys change nothing. -/
def takeEntry (settings : Settings) (key : String) (value : Value) : Reading Settings :=
  match key with
  | "blacklisted_providers" => (readTextSet value).map fun providers =>
    { settings with blacklistedProviders := providers }
  | "default_refreshes_per_day" => (readNatural UInt32.size value).map fun rate =>
    { settings with defaultRefreshesPerDay := UInt32.ofNat rate }
  | "enabled" => (readFlag value).map fun enabled => { settings with enabled }
  | "min_seconds_since_last_refresh" => (readNatural UInt64.size value).map fun seconds =>
    { settings with minSecondsSinceLastRefresh := UInt64.ofNat seconds }
  | "per_tenant_refreshes_per_day" => (readRateTable value).map fun rates =>
    { settings with perTenantRefreshesPerDay := rates }
  | _ => .ok settings

def takeEntries (settings : Settings) : Table → Reading Settings
  | [] => .ok settings
  | (key, value) :: rest => do
    let settings ← readAt key (takeEntry settings key value)
    takeEntries settings rest

/-- Settings from a table; what it does not name is as by default. -/
def ofTable (entries : Table) : Reading Settings :=
  takeEntries default entries

def defaultLayer : Table :=
  match Value.ofJson default.toJson with
  | .table entries => entries
  | _ => []

structure Source where
  file : Option String
  bindings : Variables

inductive LoadFault where
  | load (cause : Fault)
  | refused (fault : SettingsFault)
  deriving DecidableEq

namespace LoadFault

def message : LoadFault → String
  | load _ => "failed to load flywheel settings"
  | refused fault => fault.message

end LoadFault

namespace Source

/-- The table that a settings file holds; a missing file holds nothing. -/
def fileLayer (source : Source) : Reading Table :=
  match source.file with
  | none => .ok []
  | some content =>
    match Toml.read content with
    | some entries => .ok entries
    | none => .error (Fault.here .message)

def layers (source : Source) : Reading Table :=
  source.fileLayer.map fun file =>
    mergeEntries (mergeEntries defaultLayer file)
      (Config.ofVariables "FLYWHEEL_" source.bindings)

def load (source : Source) : Except LoadFault Settings :=
  match source.layers.bind ofTable with
  | .error fault => .error (.load fault)
  | .ok settings =>
    match settings.validate with
    | .error fault => .error (.refused fault)
    | .ok () => .ok settings

end Source

end UnattendedRefresh.Settings
