import UnattendedRefresh.Application
import UnattendedRefresh.Proofs.Config.Durations
import UnattendedRefresh.Proofs.Settings.LastGood
import UnattendedRefresh.Proofs.Settings.Precedence

/-!
# How long the settings are reread

A task that was started stands before its next tick whatever time has passed and whatever
the ticks have found. It is not started at an interval of zero, and a configuration has
that interval where a variable asks for it, in one of its many spellings.
-/

namespace UnattendedRefresh

open Config

namespace Duration

variable {duration : Duration}

theorem nanoseconds_eq_zero_iff : duration.nanoseconds = 0 ↔ duration = zero := by
  constructor
  · intro none
    obtain ⟨nanoseconds, below⟩ := duration
    obtain rfl : nanoseconds = 0 := none
    rfl
  · rintro rfl
    rfl

theorem nanoseconds_ofSeconds {seconds : Nat} (fits : seconds < UInt64.size) :
    (ofSeconds seconds).nanoseconds = seconds * 1000000000 := by
  have below : seconds * 1000000000 < durationBound :=
    Nat.mul_lt_mul_of_pos_right fits (by decide)
  simp [ofSeconds, saturating, below]

end Duration

namespace Settings

namespace ReloadTask

variable {task : ReloadTask}

/-- The time from now to the next tick. -/
def untilTick (task : ReloadTask) : Nat :=
  task.interval.nanoseconds - task.elapsed % task.interval.nanoseconds

/-- The task after some time in which its ticks found sources. -/
def elapse (task : ReloadTask) (lapses : List (Nat × Source)) : ReloadTask :=
  lapses.foldl (fun task lapse => (task.pass lapse.1).1) task

/-- The next tick is still to come, and it does come. -/
structure IsWaiting (task : ReloadTask) : Prop where
  untilTick_pos : 0 < task.untilTick
  untilTick_le : task.untilTick ≤ task.interval.nanoseconds
  still : ∀ span < task.untilTick, (task.pass span).2 = 0
  ticks : (task.pass task.untilTick).2 = 1

theorem isWaiting (running : task.interval.nanoseconds ≠ 0) : task.IsWaiting := by
  have positive : 0 < task.interval.nanoseconds := Nat.pos_of_ne_zero running
  have passed : task.elapsed % task.interval.nanoseconds < task.interval.nanoseconds :=
    Nat.mod_lt _ positive
  have split := Nat.div_add_mod task.elapsed task.interval.nanoseconds
  refine ⟨?_, ?_, fun span early => ?_, ?_⟩
  · unfold untilTick
    omega
  · unfold untilTick
    omega
  · have within : (task.elapsed + span) / task.interval.nanoseconds =
        task.elapsed / task.interval.nanoseconds := by
      unfold untilTick at early
      refine Nat.div_eq_of_lt_le ?_ ?_
      · rw [Nat.mul_comm]
        omega
      · rw [Nat.mul_comm, Nat.mul_succ]
        omega
    simp [pass, within]
  · have next : task.elapsed + task.untilTick =
        task.interval.nanoseconds * (task.elapsed / task.interval.nanoseconds + 1) := by
      unfold untilTick
      rw [Nat.mul_succ]
      omega
    simp [pass, next, Nat.mul_div_cancel_left _ positive]

@[simp]
theorem interval_elapse (task : ReloadTask) (lapses : List (Nat × Source)) :
    (task.elapse lapses).interval = task.interval := by
  induction lapses generalizing task with
  | nil => rfl
  | cons lapse lapses ih => exact ih (task.pass lapse.1).1

/-- The task ticks on for ever, once for every interval, whatever its ticks find. -/
structure Endures (task : ReloadTask) : Prop where
  waiting : ∀ lapses, (task.elapse lapses).IsWaiting
  ticked : ∀ lapses, (task.finds lapses).length =
    (lapses.map Prod.fst).sum / task.interval.nanoseconds
  found : ∀ found, ∃ lapses, task.finds lapses = found
  settings : ∀ current lapses, task.watch current lapses = lastGood current (task.finds lapses)

/-- The task was started, and it goes on for ever. -/
def Survives (task : Option ReloadTask) : Prop :=
  ∃ started, task = some started ∧ started.Endures

theorem endures_of_started {interval : Duration} (started : start interval = some task) :
    task.Endures := by
  unfold start at started
  split at started
  next => cases started
  next running =>
    obtain rfl := Option.some.inj started
    refine ⟨fun lapses => isWaiting (by simpa using running), fun lapses => ?_,
      exists_finds _ running, watch_eq _⟩
    simpa using length_finds ⟨interval, 0⟩ lapses

theorem survives_iff {interval : Duration} :
    Survives (start interval) ↔ interval ≠ .zero := by
  rw [Ne, ← Duration.nanoseconds_eq_zero_iff]
  constructor
  · rintro ⟨task, started, -⟩ none
    simp [start, none] at started
  · intro running
    have started : start interval = some ⟨interval, 0⟩ := if_neg running
    exact ⟨_, started, endures_of_started started⟩

end ReloadTask

end Settings

namespace Config

/-- A value that asks for no time at all. -/
def Value.IsZeroDuration (value : Value) : Prop :=
  value = .natural 0 ∨ ∃ source, value = .text source ∧ Duration.parse? source = some .zero

theorem readDuration_eq_zero_iff {value : Value} :
    readDuration value = .ok .zero ↔ value.IsZeroDuration := by
  unfold Value.IsZeroDuration
  cases value with
  | natural seconds =>
      by_cases fits : seconds < UInt64.size
      · have zero : Duration.ofSeconds seconds = .zero ↔ seconds = 0 := by
          rw [← Duration.nanoseconds_eq_zero_iff, Duration.nanoseconds_ofSeconds fits]
          omega
        simp [readDuration, fits, zero]
      · have large : seconds ≠ 0 := by
          rintro rfl
          exact fits (by decide)
        simp [readDuration, fits, large]
  | text source =>
      rw [readDuration_text]
      cases parsed : Duration.parse? source <;> simp [parsed]
  | _ => simp [readDuration]

end Config

namespace Application

variable {bindings : Variables} {config : ProcessConfig}

/-- What the variables say for the interval at which settings are read again. -/
def reloadIntervalIn? (bindings : Variables) : Option Value :=
  valueAt? "settings_reload_interval" (Config.ofVariables "" bindings)

theorem settingsReloadInterval_eq_zero_iff
    (accepted : ProcessConfig.ofVariables bindings = .ok config) :
    config.settingsReloadInterval = .zero ↔
      ∃ value, reloadIntervalIn? bindings = some value ∧ value.IsZeroDuration := by
  obtain ⟨ofSaid, ofSilent⟩ := ProcessConfig.DurationField.get_of_ofTable .settingsReloadInterval
    (Config.ascendingKeys_ofVariables "" bindings) accepted
  cases said : reloadIntervalIn? bindings with
  | none =>
      have usual : config.settingsReloadInterval = .ofSeconds 30 := ofSilent said
      have running : Duration.ofSeconds 30 ≠ .zero := by decide
      simp [usual, running]
  | some value =>
      have read : readDuration value = .ok config.settingsReloadInterval := ofSaid value said
      simp [← readDuration_eq_zero_iff, read]

/-- The task for a configuration that was accepted goes on for ever, whatever its ticks
find, unless the interval is zero; and that it is only where the variables ask for it. -/
theorem reload_survives_iff (accepted : ProcessConfig.ofVariables bindings = .ok config) :
    (Settings.ReloadTask.Survives (reloadTask config) ↔ config.settingsReloadInterval ≠ .zero) ∧
      (config.settingsReloadInterval = .zero ↔
        ∃ value, reloadIntervalIn? bindings = some value ∧ value.IsZeroDuration) :=
  ⟨Settings.ReloadTask.survives_iff, settingsReloadInterval_eq_zero_iff accepted⟩

section Spelled

open ProcessConfig.DurationField

/-- The required variables with a text for the interval. -/
def every (source : String) : Variables :=
  required ++ [("SETTINGS_RELOAD_INTERVAL", source)]

def usualEvery (interval : Duration) : ProcessConfig :=
  { usual with settingsReloadInterval := interval }

/-- A nanosecond is an interval, however it is written. -/
theorem reload_survives_nanosecond :
    ProcessConfig.ofVariables (every "0.0001e-5s") = .ok (usualEvery ⟨1, by decide⟩) ∧
      Settings.ReloadTask.Survives (reloadTask (usualEvery ⟨1, by decide⟩)) := by
  have accepted : ProcessConfig.ofVariables (every "0.0001e-5s") =
      .ok (usualEvery ⟨1, by decide⟩) := by decide +kernel
  exact ⟨accepted, (reload_survives_iff accepted).1.mpr (by decide)⟩

/-- Less than a nanosecond is accepted too, and nothing is ever read again. -/
theorem reload_never_started :
    ProcessConfig.ofVariables (every "0") = .ok (usualEvery .zero) ∧
      ProcessConfig.ofVariables (every "0.9e-9s") = .ok (usualEvery .zero) ∧
      reloadTask (usualEvery .zero) = none ∧
      ¬ Settings.ReloadTask.Survives (reloadTask (usualEvery .zero)) := by
  refine ⟨by decide +kernel, by decide +kernel, rfl, ?_⟩
  rintro ⟨task, started, -⟩
  cases started

end Spelled

end Application

end UnattendedRefresh
