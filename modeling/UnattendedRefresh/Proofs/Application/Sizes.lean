import UnattendedRefresh.Application
import UnattendedRefresh.Proofs.Config.Durations
import UnattendedRefresh.Proofs.Http.Percent

/-!
# The sizes of the pools

The sizes that a configuration gives are machine words, and their sums are formed as such.
Where no pool asks for more permits than a semaphore has, every sum is what it would be of
natural numbers; anything larger is refused by breaking off.
-/

namespace UnattendedRefresh

open Config

namespace PoolSizes

variable {sizes : PoolSizes}

structure AreWords (sizes : PoolSizes) : Prop where
  passWorkers_lt : sizes.passWorkers < UInt64.size
  dispatchWorkers_lt : sizes.dispatchWorkers < UInt64.size
  dispatchQueue_lt : sizes.dispatchQueue < UInt64.size
  forcedWorkers_lt : sizes.forcedWorkers < UInt64.size
  forcedQueue_lt : sizes.forcedQueue < UInt64.size

def workersOf (sizes : PoolSizes) : Lane → Nat
  | .pass => sizes.passWorkers
  | .dispatch => sizes.dispatchWorkers
  | .forced => sizes.forcedWorkers

/-- Passes have no queue behind their workers. -/
def queueOf (sizes : PoolSizes) : Lane → Nat
  | .pass => 0
  | .dispatch => sizes.dispatchQueue
  | .forced => sizes.forcedQueue

/-- The permits that the pool of a lane asks for. -/
def permits (sizes : PoolSizes) (lane : Lane) : Nat :=
  max (sizes.workersOf lane) 1 + sizes.queueOf lane

/-- No pool asks for more permits than a semaphore has. -/
def Fit (sizes : PoolSizes) : Prop :=
  ∀ lane, sizes.permits lane ≤ WorkerPool.greatestCapacity

/-! ### Sums of machine words -/

/-- The workers of all pools, added from left to right. -/
def countedWorkers (sizes : PoolSizes) : UInt64 :=
  UInt64.ofNat sizes.dispatchWorkers + UInt64.ofNat sizes.forcedWorkers
    + UInt64.ofNat sizes.passWorkers

/-- One connection for each worker: at most as many as 32 bits can count, and then from
two to 32. -/
def countedConnections (sizes : PoolSizes) : Nat :=
  let workers := sizes.countedWorkers.toNat
  min 32 (max 2 (if workers < UInt32.size then workers else UInt32.size - 1))

def countedCapacity (sizes : PoolSizes) (lane : Lane) : UInt64 :=
  max (UInt64.ofNat (sizes.workersOf lane)) 1 + UInt64.ofNat (sizes.queueOf lane)

theorem workers_lt_of_fit (fits : sizes.Fit) : sizes.workers < UInt64.size := by
  have pass := fits .pass
  have dispatch := fits .dispatch
  have forced := fits .forced
  simp only [permits, workersOf, queueOf, WorkerPool.greatestCapacity] at pass dispatch forced
  simp only [workers, UInt64.size]
  omega

theorem toNat_countedWorkers (fits : sizes.Fit) :
    sizes.countedWorkers.toNat =
      sizes.dispatchWorkers + sizes.forcedWorkers + sizes.passWorkers := by
  have below := workers_lt_of_fit fits
  simp only [workers, UInt64.size] at below
  simp only [countedWorkers, UInt64.toNat_add, UInt64.toNat_ofNat']
  omega

theorem countedConnections_eq (fits : sizes.Fit) :
    sizes.countedConnections =
      min 32 (max 2 (sizes.dispatchWorkers + sizes.forcedWorkers + sizes.passWorkers)) := by
  simp only [countedConnections, toNat_countedWorkers fits, UInt32.size]
  split <;> omega

theorem toNat_max_word (one other : UInt64) :
    (max one other).toNat = max one.toNat other.toNat := by
  change (if one ≤ other then other else one).toNat = _
  split
  next le => exact (Nat.max_eq_right (UInt64.le_iff_toNat_le.mp le)).symm
  next lt => exact (Nat.max_eq_left (Nat.le_of_not_le (mt UInt64.le_iff_toNat_le.mpr lt))).symm

theorem toNat_countedCapacity (fits : sizes.Fit) (lane : Lane) :
    (sizes.countedCapacity lane).toNat = max (sizes.workersOf lane) 1 + sizes.queueOf lane := by
  have below := fits lane
  simp only [permits, WorkerPool.greatestCapacity] at below
  simp only [countedCapacity, UInt64.toNat_add, toNat_max_word, UInt64.toNat_ofNat',
    UInt64.toNat_one]
  omega

/-! ### Pools that can be made -/

theorem canBeMade_iff : sizes.canBeMade = true ↔ sizes.Fit := by
  simp only [canBeMade, WorkerPool.canBeMade, Bool.and_eq_true, decide_eq_true_eq]
  constructor
  · rintro ⟨⟨pass, dispatch⟩, forced⟩ lane
    cases lane
    · exact pass
    · exact dispatch
    · exact forced
  · intro fits
    exact ⟨⟨fits .pass, fits .dispatch⟩, fits .forced⟩

end PoolSizes

namespace Config.ProcessConfig

variable {config : ProcessConfig} {bindings : Variables} {draft final : Draft} {key : String}
  {value : Value} {entries : Table}

theorem areWords_of_take (words : draft.config.pools.AreWords)
    (taken : draft.take key value = .ok final) : final.config.pools.AreWords := by
  unfold Draft.take at taken
  split at taken
  case h_15 =>
    obtain rfl := Except.ok.inj taken
    exact words
  all_goals
    obtain ⟨kind, read, rfl⟩ := map_eq_ok.mp taken
  -- Only the five sizes touch the pools.
  case h_3 => exact { words with dispatchQueue_lt := (readNatural_eq_ok.mp read).2 }
  case h_4 => exact { words with dispatchWorkers_lt := (readNatural_eq_ok.mp read).2 }
  case h_6 => exact { words with forcedQueue_lt := (readNatural_eq_ok.mp read).2 }
  case h_7 => exact { words with forcedWorkers_lt := (readNatural_eq_ok.mp read).2 }
  case h_10 => exact { words with passWorkers_lt := (readNatural_eq_ok.mp read).2 }
  all_goals exact words

theorem areWords_of_takeAll (words : draft.config.pools.AreWords)
    (taken : draft.takeAll entries = .ok final) : final.config.pools.AreWords := by
  induction entries generalizing draft with
  | nil =>
      obtain rfl := Except.ok.inj taken
      exact words
  | cons entry entries ih =>
      rw [Draft.takeAll, bind_eq_ok] at taken
      obtain ⟨next, took, onward⟩ := taken
      exact ih (areWords_of_take words (readAt_eq_ok.mp took)) onward

/-- A configuration that is accepted has no sizes but machine words. -/
theorem areWords_of_accepted (accepted : ofVariables bindings = .ok config) :
    config.pools.AreWords := by
  rw [ofVariables, ofTable, bind_eq_ok] at accepted
  obtain ⟨final, taken, finished⟩ := accepted
  rw [← DurationField.config_of_finish finished]
  exact areWords_of_takeAll (by constructor <;> decide) taken

end Config.ProcessConfig

namespace Application

variable {surroundings : Surroundings} {config : ProcessConfig} {bindings : Variables}
  {application : Application} {settings : Settings}

/-- The ways in which a start ends. The workers are counted before the database is
connected to, and the pools are made after the settings have loaded. -/
inductive Begins (surroundings : Surroundings) (config : ProcessConfig) : Start → Prop where
  | misaddressed {entries : List Journal.Entry}
      (strange : (Storage.Address.check config.databaseUrl).1 = false) :
      Begins surroundings config ⟨entries, .error .databaseAddress⟩
  | uncounted {entries : List Journal.Entry} (large : config.pools.workersCount = false) :
      Begins surroundings config ⟨entries, .error .oversized⟩
  | unconnected {entries : List Journal.Entry}
      (refused : surroundings.connects config.databaseUrl = false) :
      Begins surroundings config ⟨entries, .error .databaseConnection⟩
  | unsettled {entries : List Journal.Entry} {fault : Settings.LoadFault}
      (connected : connectedNote config.pools ∈ entries)
      (failed : (settingsSource surroundings config).load = .error fault) :
      Begins surroundings config ⟨entries, .error (.settings fault)⟩
  | unmade {entries : List Journal.Entry} (connected : connectedNote config.pools ∈ entries)
      (large : config.pools.canBeMade = false) :
      Begins surroundings config ⟨entries, .error .oversized⟩
  | started {entries : List Journal.Entry} {settings : Settings}
      (connected : connectedNote config.pools ∈ entries)
      (made : config.pools.canBeMade = true) :
      Begins surroundings config ⟨entries, .ok (assemble surroundings config settings)⟩

/-- What comes once the database is connected to. -/
theorem settled_begins {entries : List Journal.Entry}
    (connected : connectedNote config.pools ∈ entries) :
    Begins surroundings config
      (match (settingsSource surroundings config).load with
      | .error fault => ⟨entries, .error (.settings fault)⟩
      | .ok settings =>
        let entries := entries ++ [settingsNote settings]
        if config.pools.canBeMade then
          ⟨entries ++ servicesNotes config, .ok (assemble surroundings config settings)⟩
        else
          ⟨entries, .error .oversized⟩) := by
  cases loaded : (settingsSource surroundings config).load with
  | error fault => exact .unsettled connected loaded
  | ok settings =>
      dsimp only
      split
      next made => exact .started (by simp [connected]) made
      next large => exact .unmade (by simp [connected]) (by simpa using large)

theorem start_begins (surroundings : Surroundings) (config : ProcessConfig) :
    Begins surroundings config (start surroundings config) := by
  cases addressed : Storage.Address.check config.databaseUrl with
  | mk isAddress noted =>
      cases isAddress with
      | false =>
          have strange : connect surroundings config = (noted, .error .databaseAddress) := by
            simp [connect, addressed]
          rw [start, strange]
          exact .misaddressed (by rw [addressed])
      | true =>
          cases counted : config.pools.workersCount with
          | false =>
              have large : connect surroundings config = (noted, .error .oversized) := by
                simp [connect, addressed, counted]
              rw [start, large]
              exact .uncounted counted
          | true =>
              cases connects : surroundings.connects config.databaseUrl with
              | false =>
                  have refused : connect surroundings config =
                      (noted, .error .databaseConnection) := by
                    simp [connect, addressed, counted, connects]
                  rw [start, refused]
                  exact .unconnected connects
              | true =>
                  have connected : connect surroundings config =
                      (noted ++ [connectedNote config.pools], .ok ()) := by
                    simp [connect, addressed, counted, connects]
                  rw [start, connected]
                  exact settled_begins (by simp)

theorem oversized_of_not_fit (addressed : (Storage.Address.check config.databaseUrl).1 = true)
    (connects : surroundings.connects config.databaseUrl = true)
    (loaded : (settingsSource surroundings config).load = .ok settings)
    (large : ¬ config.pools.Fit) :
    (start surroundings config).result = .error .oversized := by
  have begins := start_begins surroundings config
  cases result : start surroundings config with
  | mk entries result =>
      rw [result] at begins
      cases begins with
      | misaddressed strange => simp [addressed] at strange
      | uncounted => rfl
      | unconnected refused => simp [connects] at refused
      | unsettled _ failed => simp [loaded] at failed
      | unmade => rfl
      | started _ made => exact absurd (PoolSizes.canBeMade_iff.mp made) large

/-- All numbers that the start makes of the sizes are those that natural numbers give, and
it does not break off. -/
structure Sized (surroundings : Surroundings) (config : ProcessConfig) : Prop where
  words : config.pools.AreWords
  workers_eq : config.pools.countedWorkers.toNat =
    config.pools.dispatchWorkers + config.pools.forcedWorkers + config.pools.passWorkers
  connections_eq : config.pools.countedConnections =
    min 32 (max 2 (config.pools.dispatchWorkers + config.pools.forcedWorkers
      + config.pools.passWorkers))
  capacity_eq : ∀ lane, (config.pools.countedCapacity lane).toNat =
    max (config.pools.workersOf lane) 1 + config.pools.queueOf lane
  /-- Neither of the two semaphores of a pool has more permits than it may have. -/
  permits_le : ∀ lane, max (config.pools.workersOf lane) 1 ≤ WorkerPool.greatestCapacity ∧
    (config.pools.countedCapacity lane).toNat ≤ WorkerPool.greatestCapacity
  /-- Once the database is connected to, so many connections are announced. -/
  announced : (start surroundings config).result ≠ .error .databaseAddress →
    (start surroundings config).result ≠ .error .databaseConnection →
      ∃ entry ∈ (start surroundings config).entries,
        entry.message = "database pool established" ∧
          ("max_connections", .number config.pools.countedConnections) ∈ entry.fields
  pools_eq : ∀ application, (start surroundings config).result = .ok application → ∀ lane,
    (application.trigger.pool lane).workers = max (config.pools.workersOf lane) 1 ∧
      (application.trigger.pool lane).capacity = (config.pools.countedCapacity lane).toNat
  unbroken : (start surroundings config).result ≠ .error .oversized

theorem announced_of_begins {start : Start} (fits : config.pools.Fit)
    (begins : Begins surroundings config start) (addressed : start.result ≠ .error .databaseAddress)
    (connects : start.result ≠ .error .databaseConnection) :
    ∃ entry ∈ start.entries, entry.message = "database pool established" ∧
      ("max_connections", .number config.pools.countedConnections) ∈ entry.fields := by
  refine ⟨connectedNote config.pools, ?_, rfl, ?_⟩
  · cases begins with
    | misaddressed => exact absurd rfl addressed
    | uncounted large => simp [PoolSizes.workersCount, PoolSizes.workers_lt_of_fit fits] at large
    | unconnected => exact absurd rfl connects
    | unsettled connected => exact connected
    | unmade connected => exact connected
    | started connected => exact connected
  · rw [PoolSizes.countedConnections_eq fits]
    simp [connectedNote, note, PoolSizes.connections, PoolSizes.workers]

theorem pools_of_begins {start : Start} (fits : config.pools.Fit)
    (begins : Begins surroundings config start) (started : start.result = .ok application)
    (lane : Lane) :
    (application.trigger.pool lane).workers = max (config.pools.workersOf lane) 1 ∧
      (application.trigger.pool lane).capacity = (config.pools.countedCapacity lane).toNat := by
  rw [PoolSizes.toNat_countedCapacity fits]
  cases begins with
  | started =>
      obtain rfl := Except.ok.inj started
      cases lane <;> exact ⟨rfl, rfl⟩
  | _ => simp at started

theorem unbroken_of_begins {start : Start} (fits : config.pools.Fit)
    (begins : Begins surroundings config start) : start.result ≠ .error .oversized := by
  cases begins with
  | uncounted large => simp [PoolSizes.workersCount, PoolSizes.workers_lt_of_fit fits] at large
  | unmade _ large => simp [PoolSizes.canBeMade_iff.mpr fits] at large
  | _ => simp

/-- A configuration that is accepted starts with the sizes it asks for, if they fit. -/
theorem start_sized (accepted : ProcessConfig.ofVariables bindings = .ok config)
    (fits : config.pools.Fit) : Sized surroundings config where
  words := ProcessConfig.areWords_of_accepted accepted
  workers_eq := PoolSizes.toNat_countedWorkers fits
  connections_eq := PoolSizes.countedConnections_eq fits
  capacity_eq := PoolSizes.toNat_countedCapacity fits
  permits_le lane := by
    rw [PoolSizes.toNat_countedCapacity fits]
    exact ⟨(Nat.le_add_right _ _).trans (fits lane), fits lane⟩
  announced := announced_of_begins fits (start_begins surroundings config)
  pools_eq _ := pools_of_begins fits (start_begins surroundings config)
  unbroken := unbroken_of_begins fits (start_begins surroundings config)

section Limits

open ProcessConfig.DurationField Storage.Address

/-- The address of the database in the usual configuration. -/
def localAddress : Url :=
  { scheme := "postgres", username := [], password := none
    host := some (.name "localhost".toList), port := none
    path := .segments ["flywheel".toList], query := none }

theorem host_local : Url.Host.elsewhere? "localhost".toList = some (.name "localhost".toList) := by
  simp [Url.Host.elsewhere?, Url.Host.isForbidden, Http.encodePercent, Http.isControl]

theorem path_local : Url.Path.ofText "flywheel".toList = .segments ["flywheel".toList] := by
  simp [Url.Path.ofText, Http.splitAt, Url.follow, Url.isDoubleDot, Url.isSingleDot, Url.inPath,
    Http.encodePercent, Http.isControl]

theorem ofText?_local : Url.ofText? "postgres://localhost/flywheel" = some localAddress := by
  have scheme : Url.scheme? (Url.tidy "postgres://localhost/flywheel".toList) =
      some ("postgres", "//localhost/flywheel".toList) := by
    decide +kernel
  have host := host_local
  have path := path_local
  simp only [String.reduceToList] at host path scheme
  simp [Url.ofText?, scheme, host, path, List.span, List.span.loop, Url.hierarchy?,
    Url.isWebScheme, Url.usualPorts, Url.behindSlashes?, Url.Authority.ofText?, Url.cutAtLast?,
    Url.Authority.withHost?, Url.spanHost, Url.port?, Url.Authority.absent, Url.Path.behind,
    localAddress]

theorem spellsText_of_plain {part : List Char} (plain : '%' ∉ part) : spellsText part = true := by
  rw [spellsText, Http.textOfBytes?_of_plain plain]
  rfl

theorem hostIsGood_of_plain {name : List Char} (plain : '%' ∉ name) :
    hostIsGood (some (.name name)) = true := by
  rw [hostIsGood, spellsText_of_plain plain, Bool.or_true]

theorem partsAreGood_local : partsAreGood localAddress = true := by
  have host := hostIsGood_of_plain (show '%' ∉ "localhost".toList by decide)
  have user := spellsText_of_plain (show '%' ∉ [] by decide)
  have path := spellsText_of_plain (show '%' ∉ "flywheel".toList by decide)
  have behind : localAddress.path.text.dropWhile (· = '/') = "flywheel".toList := by
    decide +kernel
  rw [partsAreGood, behind, path]
  simp only [localAddress, host, user, Option.map_none, Option.getD_none, Bool.and_true]

theorem check_local : (check "postgres://localhost/flywheel").1 = true := by
  rw [check, ofText?_local]
  simp only [partsAreGood_local, if_true]
  rfl

/-- Where everything is as it should be: the database answers, and nothing is set. -/
def healthy : Surroundings :=
  ⟨[], fun _ => none, fun _ => true, fun _ => true, default⟩

def queued (text : String) : Variables :=
  required ++ [("DISPATCH_WORKERS", "0"), ("DISPATCH_QUEUE_CAPACITY", text)]

def usualQueued (queue : Nat) : ProcessConfig :=
  { usual with pools := { PoolSizes.default with dispatchWorkers := 0, dispatchQueue := queue } }

/-- The longest queue that fits behind one worker. -/
theorem start_sized_longestQueue :
    ProcessConfig.ofVariables (queued "2305843009213693950") =
        .ok (usualQueued 2305843009213693950) ∧
      (usualQueued 2305843009213693950).pools.Fit ∧
      Sized healthy (usualQueued 2305843009213693950) := by
  have accepted : ProcessConfig.ofVariables (queued "2305843009213693950") =
      .ok (usualQueued 2305843009213693950) := by decide +kernel
  have fits : (usualQueued 2305843009213693950).pools.Fit := by
    intro lane
    cases lane <;> decide
  exact ⟨accepted, fits, start_sized accepted fits⟩

/-- With a queue longer by one the program breaks off as it starts. -/
theorem start_broken_off :
    ProcessConfig.ofVariables (queued "2305843009213693951") =
        .ok (usualQueued 2305843009213693951) ∧
      (start healthy (usualQueued 2305843009213693951)).result = .error .oversized ∧
      ¬ Sized healthy (usualQueued 2305843009213693951) := by
  have accepted : ProcessConfig.ofVariables (queued "2305843009213693951") =
      .ok (usualQueued 2305843009213693951) := by decide +kernel
  have loaded : (settingsSource healthy (usualQueued 2305843009213693951)).load = .ok .default := by
    decide +kernel
  have large : ¬ (usualQueued 2305843009213693951).pools.Fit := by
    intro fits
    exact absurd (fits .dispatch) (by decide)
  have addressed : (check (usualQueued 2305843009213693951).databaseUrl).1 = true := check_local
  have broken := oversized_of_not_fit addressed rfl loaded large
  exact ⟨accepted, broken, fun sized => sized.unbroken broken⟩

end Limits

end Application

end UnattendedRefresh
