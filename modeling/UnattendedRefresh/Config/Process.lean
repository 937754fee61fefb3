import UnattendedRefresh.Config.Reading
import UnattendedRefresh.Config.Variables
import UnattendedRefresh.Duration.Grammar
import UnattendedRefresh.Trigger

/-!
# Process configuration

What the program is told once, when it starts. Entries are read in the order of
their keys, so of several bad ones the first by key is reported; an entry that
is required and missing comes after those that are bad.
-/

namespace UnattendedRefresh.Config

structure ProcessConfig where
  logLevel : String
  port : UInt16
  databaseUrl : String
  shutdownTimeout : Duration
  /-- Base URL of the service that performs bulk refreshes. -/
  siteManagementUrl : String
  /-- Base URL of the service that issues credentials. -/
  credentialsUrl : String
  /-- File with refresh settings, read again and again. -/
  settingsPath : Option String
  settingsReloadInterval : Duration
  internalClock : Bool
  pools : PoolSizes
  deriving DecidableEq

/-- A duration is a whole number of seconds or a text. -/
def readDuration : Value → Reading Duration
  | .natural seconds =>
    if seconds < UInt64.size then .ok (Duration.ofSeconds seconds) else .error (Fault.here .message)
  | .text source =>
    match Duration.parse? source with
    | some duration => .ok duration
    | none => .error (Fault.here .message)
  | _ => .error (Fault.here .message)

namespace ProcessConfig

/-- What the entries read so far say, over the defaults. -/
structure Draft where
  config : ProcessConfig
  hasDatabaseUrl : Bool
  hasSiteManagementUrl : Bool
  hasCredentialsUrl : Bool

namespace Draft

def blank : Draft :=
  { config :=
      { logLevel := "info"
        port := 8080
        databaseUrl := ""
        shutdownTimeout := Duration.ofSeconds 8
        siteManagementUrl := ""
        credentialsUrl := ""
        settingsPath := none
        settingsReloadInterval := Duration.ofSeconds 30
        internalClock := false
        pools := PoolSizes.default }
    hasDatabaseUrl := false
    hasSiteManagementUrl := false
    hasCredentialsUrl := false }

def update (draft : Draft) (change : ProcessConfig → ProcessConfig) : Draft :=
  { draft with config := change draft.config }

def updatePools (draft : Draft) (change : PoolSizes → PoolSizes) : Draft :=
  draft.update fun config => { config with pools := change config.pools }

/-- Sizes are machine words. -/
def readSize : Value → Reading Nat :=
  readNatural UInt64.size

/-- Take one entry; a key that is none of the configuration changes nothing. -/
def take (draft : Draft) (key : String) (value : Value) : Reading Draft :=
  match key with
  | "credentials_url" => (readText value).map fun url =>
    { draft.update fun config => { config with credentialsUrl := url } with
      hasCredentialsUrl := true }
  | "database_url" => (readText value).map fun url =>
    { draft.update fun config => { config with databaseUrl := url } with
      hasDatabaseUrl := true }
  | "dispatch_queue_capacity" => (readSize value).map fun size =>
    draft.updatePools fun pools => { pools with dispatchQueue := size }
  | "dispatch_workers" => (readSize value).map fun size =>
    draft.updatePools fun pools => { pools with dispatchWorkers := size }
  | "flywheel_settings_path" => (readOptionalText value).map fun path =>
    draft.update fun config => { config with settingsPath := path }
  | "forced_queue_capacity" => (readSize value).map fun size =>
    draft.updatePools fun pools => { pools with forcedQueue := size }
  | "forced_workers" => (readSize value).map fun size =>
    draft.updatePools fun pools => { pools with forcedWorkers := size }
  | "internal_clock" => (readFlag value).map fun flag =>
    draft.update fun config => { config with internalClock := flag }
  | "log_level" => (readText value).map fun level =>
    draft.update fun config => { config with logLevel := level }
  | "pass_workers" => (readSize value).map fun size =>
    draft.updatePools fun pools => { pools with passWorkers := size }
  | "port" => (readNatural UInt16.size value).map fun port =>
    draft.update fun config => { config with port := UInt16.ofNat port }
  | "settings_reload_interval" => (readDuration value).map fun interval =>
    draft.update fun config => { config with settingsReloadInterval := interval }
  | "shutdown_timeout" => (readDuration value).map fun timeout =>
    draft.update fun config => { config with shutdownTimeout := timeout }
  | "site_management_url" => (readText value).map fun url =>
    { draft.update fun config => { config with siteManagementUrl := url } with
      hasSiteManagementUrl := true }
  | _ => .ok draft

def takeAll (draft : Draft) : Table → Reading Draft
  | [] => .ok draft
  | (key, value) :: rest => do
    let draft ← readAt key (draft.take key value)
    draft.takeAll rest

/-- The configuration, if nothing required is missing. -/
def finish (draft : Draft) : Reading ProcessConfig :=
  if ¬ draft.hasDatabaseUrl then .error (Fault.here (.missingField "database_url"))
  else if ¬ draft.hasSiteManagementUrl then
    .error (Fault.here (.missingField "site_management_url"))
  else if ¬ draft.hasCredentialsUrl then
    .error (Fault.here (.missingField "credentials_url"))
  else .ok draft.config

end Draft

def ofTable (entries : Table) : Reading ProcessConfig := do
  let draft ← Draft.blank.takeAll entries
  draft.finish

def ofVariables (bindings : Variables) : Reading ProcessConfig :=
  ofTable (Config.ofVariables "" bindings)

end ProcessConfig

end UnattendedRefresh.Config
