import UnattendedRefresh.Duration
import UnattendedRefresh.Settings.Source

/-!
# Reloading settings

The settings in effect are one value that is replaced as a whole. A task reads
the source again at every multiple of an interval; what does not load leaves
the settings as they are.
-/

namespace UnattendedRefresh.Settings

/-- Put new settings in place of the current ones, and whether that changed
anything. -/
def replace (current new : Settings) : Settings × Bool :=
  (new, current ≠ new)

def reload (current : Settings) (source : Source) : Settings × Journal.Entry :=
  match source.load with
  | .ok new =>
    let (settings, changed) := replace current new
    if changed then (settings, Journal.note .info "Flywheel settings reloaded")
    else (settings, Journal.note .debug "Flywheel settings unchanged")
  | .error _ =>
    (current, Journal.note .warn "Failed to reload flywheel settings, keeping previous")

def reloads (source : Source) : Nat → Settings → Settings × List Journal.Entry
  | 0, current => (current, [])
  | count + 1, current =>
    let (settings, entry) := reload current source
    let (settings, entries) := reloads source count settings
    (settings, entry :: entries)

/-- The task that reloads: how long it has run, in nanoseconds, and its interval,
which is not zero. -/
structure ReloadTask where
  interval : Duration
  elapsed : Nat

namespace ReloadTask

/-- Start the task. No task runs at an interval of zero. -/
def start (interval : Duration) : Option ReloadTask :=
  if interval.nanoseconds = 0 then none else some ⟨interval, 0⟩

def pass (task : ReloadTask) (nanoseconds : Nat) : ReloadTask × Nat :=
  let elapsed := task.elapsed + nanoseconds
  ({ task with elapsed },
    elapsed / task.interval.nanoseconds - task.elapsed / task.interval.nanoseconds)

end ReloadTask

end UnattendedRefresh.Settings
