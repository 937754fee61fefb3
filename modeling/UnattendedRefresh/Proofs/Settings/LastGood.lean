import Mathlib.Algebra.GroupWithZero.Nat
import UnattendedRefresh.Settings.Reload

/-!
# The last good settings

What a source holds counts only if it loads, and what loads keeps to the ceiling. So
reading sources one after another leaves the settings of the last source that loaded,
and every rate that is ever in effect is one that the wheel need not clamp.
-/

namespace UnattendedRefresh

namespace Settings

/-- No rate is above the ceiling, neither the default nor that of any tenant. -/
structure WithinCeiling (settings : Settings) : Prop where
  default_le : settings.defaultRefreshesPerDay.toNat ≤ refreshCeiling
  rate_le : ∀ tenant, (settings.refreshesPerDay tenant).toNat ≤ refreshCeiling

variable {settings initial : Settings} {source : Source} {sources : List Source}

theorem withinCeiling_of_valid (valid : settings.validate = .ok ()) :
    settings.WithinCeiling := by
  simp only [validate] at valid
  split at valid
  next => simp at valid
  next default =>
    split at valid
    next => simp at valid
    next none =>
      refine ⟨Nat.le_of_not_lt default, ?_⟩
      intro tenant
      simp only [refreshesPerDay, OrderedMap.find?]
      cases found : settings.perTenantRefreshesPerDay.entries.find? (·.1 = tenant) with
      | none => simpa using Nat.le_of_not_lt default
      | some entry =>
          have low := List.find?_eq_none.mp none entry (List.mem_of_find?_eq_some found)
          simpa using low

theorem refreshesPerDay_le_ceiling (valid : settings.validate = .ok ()) (tenant : TenantId) :
    (settings.refreshesPerDay tenant).toNat ≤ refreshCeiling :=
  (withinCeiling_of_valid valid).rate_le tenant

namespace Source

/-- What the source holds, if it loads. -/
def good? (source : Source) : Option Settings :=
  match source.load with
  | .ok settings => some settings
  | .error _ => none

theorem validate_of_load (loaded : source.load = .ok settings) :
    settings.validate = .ok () := by
  unfold load at loaded
  split at loaded
  next => simp at loaded
  next read _ =>
    split at loaded
    next => simp at loaded
    next valid =>
      obtain rfl : read = settings := by simpa using loaded
      exact valid

theorem withinCeiling_of_load (loaded : source.load = .ok settings) :
    settings.WithinCeiling :=
  withinCeiling_of_valid (validate_of_load loaded)

end Source

/-- The settings of the last source that loaded; the initial ones if none did. -/
def lastGood (initial : Settings) (sources : List Source) : Settings :=
  (sources.filterMap Source.good?).getLastD initial

theorem lastGood_cons (initial : Settings) (source : Source) (sources : List Source) :
    lastGood initial (source :: sources) =
      lastGood (source.good?.getD initial) sources := by
  cases good : source.good? with
  | none => simp [lastGood, good]
  | some settings =>
      rw [lastGood, lastGood, List.filterMap_cons_some good, List.getLastD_cons]
      rfl

theorem lastGood_append (initial : Settings) (sources later : List Source) :
    lastGood initial (sources ++ later) = lastGood (lastGood initial sources) later := by
  induction sources generalizing initial with
  | nil => rfl
  | cons source sources ih => rw [List.cons_append, lastGood_cons, ih, lastGood_cons]

theorem reload_settings (current : Settings) (source : Source) :
    (current.reload source).1 = source.good?.getD current := by
  unfold reload Source.good?
  cases source.load with
  | error fault => rfl
  | ok new => by_cases same : current = new <;> simp [replace, same]

theorem reloads_settings (source : Source) (count : Nat) (current : Settings) :
    (reloads source count current).1 =
      lastGood current (List.replicate count source) := by
  induction count generalizing current with
  | zero => rfl
  | succ count ih =>
      rw [List.replicate_succ, lastGood_cons, ← reload_settings, ← ih]
      rfl

theorem WithinCeiling.reload (within : settings.WithinCeiling) (source : Source) :
    (settings.reload source).1.WithinCeiling := by
  rw [reload_settings]
  unfold Source.good?
  cases loaded : source.load with
  | error fault => exact within
  | ok new => exact Source.withinCeiling_of_load loaded

theorem withinCeiling_lastGood (within : initial.WithinCeiling) (sources : List Source) :
    (lastGood initial sources).WithinCeiling := by
  induction sources generalizing initial with
  | nil => exact within
  | cons source sources ih =>
      have reloaded := within.reload source
      rw [reload_settings] at reloaded
      rw [lastGood_cons]
      exact ih reloaded

/-! ### The task that reloads -/

namespace ReloadTask

/-- Time passes in spans, and the ticks that fall into a span find one source. -/
def watch (task : ReloadTask) (current : Settings) : List (Nat × Source) → Settings
  | [] => current
  | (span, source) :: lapses =>
    watch (task.pass span).1 (reloads source (task.pass span).2 current).1 lapses

/-- The sources that the ticks find, one for each tick. -/
def finds (task : ReloadTask) : List (Nat × Source) → List Source
  | [] => []
  | (span, source) :: lapses =>
    List.replicate (task.pass span).2 source ++ finds (task.pass span).1 lapses

theorem watch_eq (task : ReloadTask) (current : Settings) (lapses : List (Nat × Source)) :
    task.watch current lapses = lastGood current (task.finds lapses) := by
  induction lapses generalizing task current with
  | nil => rfl
  | cons lapse lapses ih =>
      obtain ⟨span, source⟩ := lapse
      rw [watch, finds, ih, lastGood_append, reloads_settings]

/-- The task ticks once for every interval that has passed. -/
theorem length_finds (task : ReloadTask) (lapses : List (Nat × Source)) :
    task.elapsed / task.interval.nanoseconds + (task.finds lapses).length =
      (task.elapsed + (lapses.map Prod.fst).sum) / task.interval.nanoseconds := by
  induction lapses generalizing task with
  | nil => rfl
  | cons lapse lapses ih =>
      obtain ⟨span, source⟩ := lapse
      have later := ih (task.pass span).1
      have grows : task.elapsed / task.interval.nanoseconds ≤
          (task.elapsed + span) / task.interval.nanoseconds :=
        Nat.div_le_div_right (Nat.le_add_right _ _)
      simp only [finds, pass, List.length_append, List.length_replicate, List.map_cons,
        List.sum_cons] at later ⊢
      rw [← Nat.add_assoc task.elapsed, ← later]
      omega

/-- Any sources can be what the ticks find, one after another. -/
theorem exists_finds (task : ReloadTask) (running : task.interval.nanoseconds ≠ 0)
    (sources : List Source) : ∃ lapses, task.finds lapses = sources := by
  induction sources generalizing task with
  | nil => exact ⟨[], rfl⟩
  | cons source sources ih =>
      obtain ⟨lapses, found⟩ := ih (task.pass task.interval.nanoseconds).1 running
      have once : (task.pass task.interval.nanoseconds).2 = 1 := by
        have next := Nat.add_div_right task.elapsed (Nat.pos_of_ne_zero running)
        simp only [pass]
        omega
      exact ⟨(task.interval.nanoseconds, source) :: lapses, by simp [finds, once, found]⟩

end ReloadTask

end Settings

end UnattendedRefresh
