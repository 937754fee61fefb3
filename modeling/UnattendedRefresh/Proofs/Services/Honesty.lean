import UnattendedRefresh.Application
import UnattendedRefresh.Proofs.Services.Superintendence

/-!
# What a success tells

A run of the application reports success only if a signal ended it and if the services and
the pools ended within the timeout. If stopping them goes well, that means that every
service was shut down gracefully; what becomes of a service that is being stopped is not
looked at.
-/

namespace UnattendedRefresh

namespace Services.Supervisor

variable {supervisor : Supervisor}

/-! ### Starting the services -/

/-- What writing leaves alone, writing for every service leaves alone. -/
theorem foldl_write {Value : Type} (value : Supervisor → Value)
    (kept : ∀ (supervisor : Supervisor) level message fields,
      value (supervisor.write level message fields) = value supervisor)
    (services : List (String × Service)) (supervisor : Supervisor) :
    value (services.foldl (fun supervisor (name, _) =>
      supervisor.write .trace "service spawned" [("service", .text name)]) supervisor) =
      value supervisor := by
  induction services generalizing supervisor with
  | nil => rfl
  | cons first services ih => rw [List.foldl_cons, ih, kept]

/-- A registered service right after all were started. -/
def started (supervisor : Supervisor) (entry : String × Service) : Spawned :=
  ⟨entry.1, entry.2, supervisor.now, false, none⟩

theorem isFresh_started (supervisor : Supervisor) (entry : String × Service) :
    (supervisor.started entry).IsFresh supervisor.now :=
  ⟨rfl, rfl, rfl⟩

theorem spawnAll_now (supervisor : Supervisor) : supervisor.spawnAll.now = supervisor.now :=
  foldl_write now (fun _ _ _ _ => rfl) supervisor.registered.entries supervisor

theorem spawnAll_running (idle : supervisor.running = []) :
    supervisor.spawnAll.running = supervisor.registered.entries.map supervisor.started := by
  have kept := foldl_write running (fun _ _ _ _ => rfl) supervisor.registered.entries supervisor
  have learnt : ∀ entry, (supervisor.started entry).learn supervisor.spawnAll.now =
      supervisor.started entry :=
    fun entry => (isFresh_started supervisor entry).learn_eq
  calc supervisor.spawnAll.running
      = (supervisor.running ++ supervisor.registered.entries.map supervisor.started).map
          (·.learn supervisor.spawnAll.now) := by
        rw [← kept]
        rfl
    _ = supervisor.registered.entries.map supervisor.started := by
        simp [idle, Function.comp_def, learnt]

theorem spawnAll_hasStarted (idle : supervisor.running = []) :
    supervisor.spawnAll.HasStarted where
  fresh spawned member := by
    rw [spawnAll_running idle] at member
    obtain ⟨entry, -, rfl⟩ := List.mem_map.mp member
    rw [spawnAll_now]
    exact isFresh_started supervisor entry
  distinct := by
    rw [spawnAll_running idle, List.map_map]
    refine List.Pairwise.map _ (fun entry other ordered same => ?_) supervisor.registered.ascending
    have equal : entry.1 = other.1 := same
    simp [equal] at ordered
  settled := rfl

theorem isEmpty_unseen (verdicts : List (String × Bool)) :
    ((verdicts.filter (! ·.2)).map (·.1)).isEmpty = (verdicts.map (·.2)).all id := by
  induction verdicts with
  | nil => rfl
  | cons verdict verdicts ih =>
      obtain ⟨name, isSeen⟩ := verdict
      cases isSeen <;> simp_all

/-- What the supervisor does closes a run in a possible way, however the pools drain. -/
theorem superintend_closes {signal : Option (Signal × Nat)} {timeout : Duration}
    {drainedAfter : Option Nat} {isDrained : Bool} {drainTime : Nat}
    (started : supervisor.HasStarted)
    (eventful : Eventful (supervisor.running.map (·.service)) (signal.map (·.2)).toList)
    (drained : Awaits timeout.nanoseconds 0 drainedAfter isDrained drainTime) :
    ∃ closing : Closing,
      closing.Possible (supervisor.running.map (·.service)) (signal.map (·.2)).toList
        timeout.nanoseconds drainedAfter ∧
      closing.isSuccess = ((supervisor.superintend signal timeout).2 && isDrained) := by
  obtain ⟨cause, ⟨begun, stillFresh, caused⟩, well⟩ :=
    untilDisturbed_caught started eventful
  obtain ⟨fates, served, arises, seen, awaits⟩ :=
    exists_fates stillFresh begun (Nat.zero_le timeout.nanoseconds)
  refine ⟨⟨cause, _, fates, isDrained⟩,
    ⟨served.symm ▸ caused, arises, ⟨_, awaits⟩, ⟨_, drained⟩⟩, ?_⟩
  rw [superintend_snd, well, shutdown_snd, isEmpty_unseen, ← seen, List.all_map]
  rfl

end Services.Supervisor

namespace Application

open Services

variable {application : Application} {close : Close} {closing : Closing}

/-- The services that a run will start. -/
def members (application : Application) : List Service :=
  application.supervisor.registered.values

namespace Close

/-- When signals come, counted from the start of the services. -/
def signals (close : Close) : List Nat :=
  (close.signal.map (·.2)).toList

end Close

/-- Whether a run of the application can close like this, when signals come at these moments
and the pools take so long to drain, if they ever do. -/
def MayClose (application : Application) (signals : List Nat) (drainedAfter : Option Nat)
    (closing : Closing) : Prop :=
  closing.Possible application.members signals
    application.config.shutdownTimeout.nanoseconds drainedAfter

theorem run_closes (idle : application.supervisor.running = [])
    (eventful : Eventful application.members close.signals) :
    ∃ closing, application.MayClose close.signals close.drainedAfter closing ∧
      closing.isSuccess = (application.run close).isSuccess := by
  have members_eq : application.supervisor.spawnAll.running.map (·.service) =
      application.members := by
    rw [Supervisor.spawnAll_running idle, List.map_map]
    rfl
  obtain ⟨closing, possible, verdict⟩ :=
    Supervisor.superintend_closes (Supervisor.spawnAll_hasStarted idle) (members_eq ▸ eventful)
      (Supervisor.waitFor_awaits application.config.shutdownTimeout.nanoseconds 0
        close.drainedAfter)
  refine ⟨closing, by rw [MayClose, ← members_eq]; exact possible, verdict.trans ?_⟩
  simp only [run, drain]
  cases (Supervisor.waitFor application.config.shutdownTimeout.nanoseconds 0
    close.drainedAfter).1 <;> simp

/-- Whatever is seen first of what falls on the same moment: success means that the run was
left to a signal, and that all services and the pools ended within the timeout; and if
stopping the services goes well, that each of them was shut down gracefully. The run of the
application is one that may turn out so. -/
theorem success_honest (application : Application) (close : Close)
    (idle : application.supervisor.running = []) :
    (Eventful application.members close.signals →
      ∃ closing, application.MayClose close.signals close.drainedAfter closing ∧
        closing.isSuccess = (application.run close).isSuccess) ∧
    ∀ signals drainedAfter closing, application.MayClose signals drainedAfter closing →
      closing.isSuccess = true →
      closing.InTime application.members signals
        application.config.shutdownTimeout.nanoseconds drainedAfter ∧
      (Orderly application.members signals → ∀ fate ∈ closing.fates, fate.exit = .graceful) :=
  ⟨run_closes idle, fun _ _ _ may success =>
    ⟨may.inTime success, fun orderly => may.graceful orderly success⟩⟩

section Alone

private def plainConfig : Config.ProcessConfig :=
  { logLevel := "info", port := 8080, databaseUrl := "postgres://localhost/flywheel"
    shutdownTimeout := Duration.ofMilliseconds 100, siteManagementUrl := "http://localhost:1"
    credentialsUrl := "http://localhost:2", settingsPath := none
    settingsReloadInterval := Duration.ofSeconds 60, internalClock := false
    pools := .default }

/-- An application with one service, which works until it is asked to stop and takes a
millisecond to stop. -/
private def alone (stopped : Ending) : Application :=
  { config := plainConfig
    trigger := Trigger.create Gate.neededAction .default .default
    supervisor := Supervisor.create.register "a"
      ⟨"a", .silent none .completed, .silent (some 1000000) stopped,
        .silent (some 1000000) stopped, []⟩ }

private def terminated : Close := ⟨some (.terminate, 5000000), some 0⟩

theorem success_honest_alone :
    ((alone .completed).run terminated).isSuccess = true ∧
      ∃ closing, (alone .completed).MayClose [5000000] (some 0) closing ∧
        closing.isSuccess = true ∧ ∀ fate ∈ closing.fates, fate.exit = .graceful := by
  have success : ((alone .completed).run terminated).isSuccess = true := by rfl
  have orderly : Orderly (alone .completed).members [5000000] := by
    constructor <;> decide
  obtain ⟨closes, honest⟩ := success_honest (alone .completed) terminated rfl
  obtain ⟨closing, may, verdict⟩ := closes (Or.inl (by decide))
  have reported := verdict.trans success
  exact ⟨success, closing, may, reported, (honest _ _ closing may reported).2 orderly⟩

/-- A service that fails to stop does not keep the run from being a success. -/
theorem success_despite_failed_stop :
    ((alone (.failed "shutdown failed")).run terminated).isSuccess = true ∧
      ((alone (.failed "shutdown failed")).run terminated).supervisor.dismissed.map
        (·.exit?.map (·.2)) = [some (.failed "shutdown failed")] := by
  constructor <;> rfl

end Alone

end Application

end UnattendedRefresh
