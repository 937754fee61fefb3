import UnattendedRefresh.Proofs.Settings.LastGood

/-!
# The settings handle

The settings in effect seen as what the handle holds: a value that is put in effect gets
a cell of its own, a snapshot is the cell that was current when it was taken, and a
replacement makes another cell current. The value in the current cell goes as
`Settings.replace` and `Settings.reload` say, and no cell is ever written again.
-/

namespace UnattendedRefresh.Settings

structure Handle where
  /-- The values that were put in effect, the earliest first. -/
  cells : List Settings
  current : Nat
  current_lt : current < cells.length

namespace Handle

def create (initial : Settings) : Handle :=
  ⟨[initial], 0, Nat.one_pos⟩

def value (handle : Handle) : Settings :=
  handle.cells.get ⟨handle.current, handle.current_lt⟩

/-- What a snapshot shows that was taken when this cell was current. -/
def read? (handle : Handle) (cell : Nat) : Option Settings :=
  handle.cells[cell]?

/-- Put new settings in effect, and whether that changed anything. -/
def replace (handle : Handle) (new : Settings) : Handle × Bool :=
  if handle.value = new then
    (handle, false)
  else
    (⟨handle.cells ++ [new], handle.cells.length, by simp⟩, true)

def reload (handle : Handle) (source : Source) : Handle × Journal.Entry :=
  match source.load with
  | .ok new =>
    let (handle, changed) := replace handle new
    if changed then (handle, Journal.note .info "Flywheel settings reloaded")
    else (handle, Journal.note .debug "Flywheel settings unchanged")
  | .error _ =>
    (handle, Journal.note .warn "Failed to reload flywheel settings, keeping previous")

/-- One tick after the other, each with what the source holds by then. -/
def watch (handle : Handle) (sources : List Source) : Handle :=
  sources.foldl (fun handle source => (handle.reload source).1) handle

variable {settings initial new : Settings} {handle : Handle} {source : Source} {cell : Nat}

@[simp]
theorem read?_current (handle : Handle) : handle.read? handle.current = some handle.value :=
  List.getElem?_eq_getElem handle.current_lt

theorem replace_same (same : handle.value = new) : handle.replace new = (handle, false) := by
  simp [replace, same]

theorem replace_other (other : handle.value ≠ new) :
    (handle.replace new).1.cells = handle.cells ++ [new] ∧
      (handle.replace new).1.value = new ∧ (handle.replace new).2 = true := by
  rw [replace, if_neg other]
  exact ⟨rfl, by simp [value], rfl⟩

/-- The value goes as the settings do. -/
theorem value_replace (handle : Handle) (new : Settings) :
    ((handle.replace new).1.value, (handle.replace new).2) = handle.value.replace new := by
  by_cases same : handle.value = new
  · rw [replace_same same]
    simp [Settings.replace, same]
  · obtain ⟨-, value_eq, changed⟩ := replace_other same
    rw [value_eq, changed]
    simp [Settings.replace, same]

theorem value_reload (handle : Handle) (source : Source) :
    ((handle.reload source).1.value, (handle.reload source).2) = handle.value.reload source := by
  unfold reload Settings.reload
  cases source.load with
  | error fault => rfl
  | ok new =>
      have goes := value_replace handle new
      simp only [← goes]
      cases (handle.replace new).2 <;> rfl

/-- A change is told exactly where the new value differs. -/
theorem replace_changed_iff (handle : Handle) (new : Settings) :
    (handle.replace new).2 = true ↔ new ≠ handle.value := by
  have told : (handle.replace new).2 = (handle.value.replace new).2 :=
    congrArg Prod.snd (value_replace handle new)
  rw [told, Settings.replace, decide_eq_true_iff]
  exact ne_comm

theorem reload_of_error {fault : LoadFault} (failed : source.load = .error fault) :
    (handle.reload source).1 = handle := by
  simp [reload, failed]

theorem reload_of_ok (loaded : source.load = .ok new) :
    (handle.reload source).1 = (handle.replace new).1 := by
  unfold reload
  rw [loaded]
  cases changed : (handle.replace new).2 <;> simp [changed]

/-! ### Cells -/

theorem cells_replace (handle : Handle) (new : Settings) :
    handle.cells <+: (handle.replace new).1.cells := by
  by_cases same : handle.value = new
  · have kept : (handle.replace new).1 = handle := by rw [replace_same same]
    simpa only [kept] using List.prefix_refl handle.cells
  · rw [(replace_other same).1]
    exact List.prefix_append _ _

theorem cells_reload (handle : Handle) (source : Source) :
    handle.cells <+: (handle.reload source).1.cells := by
  cases loaded : source.load with
  | error fault =>
      have kept : (handle.reload source).1 = handle := reload_of_error loaded
      simpa only [kept] using List.prefix_refl handle.cells
  | ok new =>
      rw [reload_of_ok loaded]
      exact cells_replace handle new

theorem cells_watch (handle : Handle) (sources : List Source) :
    handle.cells <+: (handle.watch sources).cells := by
  induction sources generalizing handle with
  | nil => exact List.prefix_refl _
  | cons source sources ih =>
      have first := cells_reload handle source
      exact first.trans (ih (handle.reload source).1)

theorem read?_of_prefix {later : Handle} (kept : handle.cells <+: later.cells)
    (held : handle.read? cell = some settings) : later.read? cell = some settings := by
  obtain ⟨more, cells_eq⟩ := kept
  obtain ⟨within, -⟩ := List.getElem?_eq_some_iff.mp held
  rw [read?, ← cells_eq, List.getElem?_append_left within]
  exact held

theorem value_watch (handle : Handle) (sources : List Source) :
    (handle.watch sources).value = lastGood handle.value sources := by
  induction sources generalizing handle with
  | nil => rfl
  | cons source sources ih =>
      have goes := congrArg Prod.fst (value_reload handle source)
      simp only [reload_settings] at goes
      rw [lastGood_cons, ← goes]
      exact ih (handle.reload source).1

/-- Every value that was ever in effect, whoever may still hold it. -/
def WithinCeiling (handle : Handle) : Prop :=
  ∀ settings ∈ handle.cells, settings.WithinCeiling

theorem WithinCeiling.reload (within : handle.WithinCeiling) (source : Source) :
    (handle.reload source).1.WithinCeiling := by
  cases loaded : source.load with
  | error fault => rwa [reload_of_error loaded]
  | ok new =>
      rw [reload_of_ok loaded]
      by_cases same : handle.value = new
      · rwa [replace_same same]
      · intro settings member
        rw [(replace_other same).1, List.mem_append, List.mem_singleton] at member
        rcases member with earlier | rfl
        · exact within settings earlier
        · exact Source.withinCeiling_of_load loaded

theorem WithinCeiling.watch (within : handle.WithinCeiling) (sources : List Source) :
    (handle.watch sources).WithinCeiling := by
  induction sources generalizing handle with
  | nil => exact within
  | cons source sources ih => exact ih (within.reload source)

/-- What holds of a handle whose task has found these sources, one at each tick. -/
structure Steady (initial : Settings) (sources : List Source) (handle : Handle) : Prop where
  value_eq : handle.value = lastGood initial sources
  /-- What does not load leaves the handle untouched. -/
  untouched : ∀ source fault, source.load = .error fault → (handle.reload source).1 = handle
  replaced : ∀ new, (handle.replace new).1.value = new ∧
    ((handle.replace new).2 = true ↔ new ≠ handle.value)
  /-- A snapshot shows later what it showed as it was taken. -/
  handed_out : ∀ cell settings, handle.read? cell = some settings →
    (∀ new, (handle.replace new).1.read? cell = some settings) ∧
      ∀ later, (handle.watch later).read? cell = some settings
  within : handle.WithinCeiling

theorem steady_watch (within : initial.WithinCeiling) (sources : List Source) :
    Steady initial sources ((create initial).watch sources) where
  value_eq := value_watch (create initial) sources
  untouched source fault failed := reload_of_error failed
  replaced new := by
    have goes := congrArg Prod.fst (value_replace ((create initial).watch sources) new)
    exact ⟨goes, replace_changed_iff _ new⟩
  handed_out cell settings held :=
    ⟨fun new => read?_of_prefix (cells_replace _ new) held,
      fun later => read?_of_prefix (cells_watch _ later) held⟩
  within := by
    refine WithinCeiling.watch (fun settings member => ?_) sources
    obtain rfl := List.mem_singleton.mp member
    exact within

end Handle

end UnattendedRefresh.Settings
