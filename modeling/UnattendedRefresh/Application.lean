import UnattendedRefresh.Config.Process
import UnattendedRefresh.Services.Clock
import UnattendedRefresh.Services.Signals
import UnattendedRefresh.Services.Web
import UnattendedRefresh.Settings.Reload
import UnattendedRefresh.Storage.Address

/-!
# The application

From a configuration to a running program and to its end: connect to the
database, load the settings, set up the pools and the services, run until the
program shall end, shut the services down and let the pools drain.
-/

namespace UnattendedRefresh

inductive StartFault where
  | databaseAddress
  | databaseConnection
  | settings (fault : Settings.LoadFault)
  /-- Sizes were asked for that cannot be counted. The program breaks off. -/
  | oversized
  deriving DecidableEq

namespace StartFault

def message? : StartFault → Option String
  | databaseAddress => some "Failed to parse database URL"
  | databaseConnection => some "Failed to create database pool"
  | settings _ => some "Failed to load flywheel settings"
  | oversized => none

end StartFault

structure Surroundings where
  bindings : Config.Variables
  contentOf : String → Option String
  /-- Whether the database at an address can be connected to. -/
  connects : String → Bool
  portIsFree : UInt16 → Bool
  now : Instant

structure Application where
  config : Config.ProcessConfig
  trigger : Trigger
  supervisor : Services.Supervisor

structure Start where
  entries : List Journal.Entry
  result : Except StartFault Application

namespace PoolSizes

/-- The most connections that the jobs of all pools can use at once. -/
def workers (sizes : PoolSizes) : Nat :=
  sizes.dispatchWorkers + sizes.forcedWorkers + sizes.passWorkers

def connections (sizes : PoolSizes) : Nat :=
  min 32 (max 2 sizes.workers)

def workersCount (sizes : PoolSizes) : Bool :=
  sizes.workers < UInt64.size

def canBeMade (sizes : PoolSizes) : Bool :=
  WorkerPool.canBeMade sizes.passWorkers 0
    && WorkerPool.canBeMade sizes.dispatchWorkers sizes.dispatchQueue
    && WorkerPool.canBeMade sizes.forcedWorkers sizes.forcedQueue

end PoolSizes

namespace Application

def note (level : Journal.Level) (message : String)
    (fields : List (String × Journal.FieldValue)) : Journal.Entry :=
  ⟨level, "flywheel::app", message, fields⟩

def connectedNote (sizes : PoolSizes) : Journal.Entry :=
  note .info "database pool established"
    [("min_connections", .number 0),
     ("max_connections", .number sizes.connections),
     ("acquire_timeout", .text "4s"),
     ("idle_timeout", .text "2m"),
     ("max_lifetime", .text "30m"),
     ("acquire_slow_threshold", .text (Duration.ofMilliseconds 500).text)]

def settingsNote (settings : Settings) : Journal.Entry :=
  note .info "flywheel settings loaded"
    [("enabled", .flag settings.enabled),
     ("default_refreshes_per_day", .number settings.defaultRefreshesPerDay.toNat),
     ("tenant_overrides", .number settings.perTenantRefreshesPerDay.size),
     ("blacklisted_providers", .number settings.blacklistedProviders.toList.length)]

/-! ### Starting -/

/-- Connect to the database. The number of workers is counted before. -/
def connect (surroundings : Surroundings) (config : Config.ProcessConfig) :
    List Journal.Entry × Except StartFault Unit :=
  let (isAddress, entries) := Storage.Address.check config.databaseUrl
  if ¬ isAddress then (entries, .error .databaseAddress)
  else if ¬ config.pools.workersCount then (entries, .error .oversized)
  else if ¬ surroundings.connects config.databaseUrl then (entries, .error .databaseConnection)
  else (entries ++ [connectedNote config.pools], .ok ())

def settingsSource (surroundings : Surroundings) (config : Config.ProcessConfig) :
    Settings.Source :=
  ⟨config.settingsPath.bind surroundings.contentOf, surroundings.bindings⟩

/-- The task that goes on reading that source while the application runs. -/
def reloadTask (config : Config.ProcessConfig) : Option Settings.ReloadTask :=
  Settings.ReloadTask.start config.settingsReloadInterval

/-- The web service, and the clock if it runs inside the program. -/
def services (surroundings : Surroundings) (config : Config.ProcessConfig) :
    List (String × Services.Service) :=
  let web := Services.Web.service config.port (surroundings.portIsFree config.port)
  let clock :=
    Services.Clock.service surroundings.now.untilNextMinute.toNat minuteTicks (.ok ()) []
  if config.internalClock then [(Services.Web.name, web), (Services.Clock.name, clock)]
  else [(Services.Web.name, web)]

def servicesNotes (config : Config.ProcessConfig) : List Journal.Entry :=
  if config.internalClock then []
  else [note .info "internal clock disabled, waiting for external minute triggers" []]

def assemble (surroundings : Surroundings) (config : Config.ProcessConfig)
    (settings : Settings) : Application :=
  { config
    trigger := Trigger.create Gate.neededAction settings config.pools
    supervisor := (services surroundings config).foldl
      (fun supervisor (name, service) => supervisor.register name service)
      Services.Supervisor.create }

def start (surroundings : Surroundings) (config : Config.ProcessConfig) : Start :=
  match connect surroundings config with
  | (entries, .error fault) => ⟨entries, .error fault⟩
  | (entries, .ok ()) =>
    match (settingsSource surroundings config).load with
    | .error fault => ⟨entries, .error (.settings fault)⟩
    | .ok settings =>
      let entries := entries ++ [settingsNote settings]
      if config.pools.canBeMade then
        ⟨entries ++ servicesNotes config, .ok (assemble surroundings config settings)⟩
      else
        ⟨entries, .error .oversized⟩

/-! ### Running -/

/-- What ends a run, and how long its last jobs take. -/
structure Close where
  /-- The signal that comes, and after how many nanoseconds. -/
  signal : Option (Services.Signal × Nat)
  /-- How long the pools take to drain, if they ever do. -/
  drainedAfter : Option Nat

structure Run where
  entries : List Journal.Entry
  supervisor : Services.Supervisor
  isSuccess : Bool

def showPools (pools : List PoolStats) : String :=
  let shown (pool : PoolStats) : String :=
    "PoolStats \x7b name: " ++ Text.quote pool.name ++ ", in_flight: " ++ toString pool.inFlight
      ++ ", capacity: " ++ toString pool.capacity ++ " \x7d"
  "[" ++ ", ".intercalate (pools.map shown) ++ "]"

/-- Let the pools drain within the timeout. -/
def drain (application : Application) (drainedAfter : Option Nat) : List Journal.Entry × Bool :=
  let pools := ("pools", Journal.FieldValue.shown (showPools application.trigger.poolStats))
  let begun := note .info "draining worker pools" [pools]
  let timeout := application.config.shutdownTimeout.nanoseconds
  if (Services.Supervisor.waitFor timeout 0 drainedAfter).1 then
    ([begun, note .info "worker pools drained" []], true)
  else
    ([begun, note .warn "worker pools did not drain before shutdown timeout" [pools]], false)

def run (application : Application) (close : Close) : Run :=
  let (supervisor, isWell) :=
    application.supervisor.spawnAll.superintend close.signal application.config.shutdownTimeout
  let (entries, isDrained) := application.drain close.drainedAfter
  { entries := supervisor.journal ++ entries, supervisor, isSuccess := isWell && isDrained }

end Application

end UnattendedRefresh
