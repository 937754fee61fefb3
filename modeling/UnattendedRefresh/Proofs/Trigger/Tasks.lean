import UnattendedRefresh.Trigger
import Mathlib.Logic.Function.Basic

/-!
# The task table

Tasks are known by their numbers, and every number is given out once. Seen as a
table from numbers to tasks, each operation of the trigger changes one entry and
keeps the others.
-/

namespace UnattendedRefresh

namespace Trigger

open Function

variable {trigger after : Trigger} {number : Nat} {task : Task}

theorem task?_congr (same : after.tasks = trigger.tasks) : after.task? = trigger.task? := by
  funext number
  rw [task?, task?, same]

@[simp]
theorem setPool_tasks (trigger : Trigger) (lane : Lane) (pool : WorkerPool Nat) :
    (trigger.setPool lane pool).tasks = trigger.tasks := by
  cases lane <;> rfl

@[simp]
theorem setPool_task? (trigger : Trigger) (lane : Lane) (pool : WorkerPool Nat) :
    (trigger.setPool lane pool).task? = trigger.task? :=
  task?_congr (trigger.setPool_tasks lane pool)

@[simp]
theorem setPool_gate (trigger : Trigger) (lane : Lane) (pool : WorkerPool Nat) :
    (trigger.setPool lane pool).gate = trigger.gate := by
  cases lane <;> rfl

@[simp]
theorem setPool_settings (trigger : Trigger) (lane : Lane) (pool : WorkerPool Nat) :
    (trigger.setPool lane pool).settings = trigger.settings := by
  cases lane <;> rfl

@[simp]
theorem setPool_next (trigger : Trigger) (lane : Lane) (pool : WorkerPool Nat) :
    (trigger.setPool lane pool).next = trigger.next := by
  cases lane <;> rfl

@[simp]
theorem addTask_settings (trigger : Trigger) (lane : Option Lane) (errand : Errand) :
    (trigger.addTask lane errand).settings = trigger.settings :=
  rfl

@[simp]
theorem resumeTask_settings (trigger : Trigger) (number : Nat) (rest : Procedure Outcome) :
    (trigger.resumeTask number rest).settings = trigger.settings :=
  rfl

@[simp]
theorem removeTask_settings (trigger : Trigger) (task : Task) :
    (trigger.removeTask task).settings = trigger.settings := by
  simp only [removeTask]
  split <;> simp

/-- The errand of a task that has not ended and the rest of its procedure. -/
def standing (trigger : Trigger) (number : Nat) : Option (Errand × Procedure Outcome) :=
  (trigger.task? number).map fun task => (task.errand, task.rest)

theorem standing_congr (same : after.task? = trigger.task?) :
    after.standing = trigger.standing := by
  funext number
  rw [standing, standing, same]

theorem standing_update {entry : Option Task}
    (table : after.task? = update trigger.task? number entry) :
    after.standing =
      update trigger.standing number (entry.map fun task => (task.errand, task.rest)) := by
  funext other
  by_cases same : other = number
  · subst same
    simp [standing, table]
  · simp [standing, table, update_of_ne same]

theorem number_of_task? (found : trigger.task? number = some task) : task.number = number := by
  simpa using List.find?_some found

/-- No task has a number that was not given out, and a task that waits for an
answer waits for somebody else's. -/
structure Sound (trigger : Trigger) : Prop where
  fresh : ∀ number, trigger.next ≤ number → trigger.task? number = none
  awaits : ∀ number task, trigger.task? number = some task → task.awaiting = true →
    ∃ question resume, task.rest = .ask question resume ∧ question.isInternal = false

theorem sound_create (gate : Gate) (settings : Settings) (sizes : PoolSizes) :
    (create gate settings sizes).Sound := by
  constructor <;> simp [create, task?]

theorem Sound.congr (sound : trigger.Sound) (same : after.task? = trigger.task?)
    (later : trigger.next ≤ after.next) : after.Sound where
  fresh number fresh := same ▸ sound.fresh number (Nat.le_trans later fresh)
  awaits := same ▸ sound.awaits

/-- It is enough to look at the entry that changed. -/
theorem Sound.of_update {entry : Option Task} (sound : trigger.Sound)
    (table : after.task? = update trigger.task? number entry)
    (given : number < after.next) (later : trigger.next ≤ after.next)
    (awaits : ∀ task, entry = some task → task.awaiting = true →
      ∃ question resume, task.rest = .ask question resume ∧ question.isInternal = false) :
    after.Sound where
  fresh other fresh := by
    rw [table, update_of_ne (by omega)]
    exact sound.fresh other (Nat.le_trans later fresh)
  awaits other task found awaiting := by
    rw [table] at found
    by_cases same : other = number
    · subst same
      exact awaits task (by simpa using found) awaiting
    · rw [update_of_ne same] at found
      exact sound.awaits other task found awaiting

theorem Sound.lt_next (sound : trigger.Sound) (found : trigger.task? number = some task) :
    number < trigger.next := by
  by_contra beyond
  simp [sound.fresh number (Nat.le_of_not_lt beyond)] at found

/-- Change every task of one number in the same way. -/
theorem find?_map_number (tasks : List Task) (change : Task → Task)
    (keeps : ∀ task, (change task).number = task.number) (number other : Nat) :
    (tasks.map fun task => if task.number = number then change task else task).find?
        (·.number = other) =
      if other = number then (tasks.find? (·.number = other)).map change
      else tasks.find? (·.number = other) := by
  induction tasks with
  | nil => simp
  | cons task tasks ih =>
      by_cases this : task.number = number <;> by_cases that : task.number = other
      · subst this that
        simp [keeps]
      · subst this
        simp [keeps, that, ih, Ne.symm that]
      · subst that
        simp [this]
      · simp [this, that, ih]

theorem task?_addTask (sound : trigger.Sound) (lane : Option Lane) (errand : Errand) :
    (trigger.addTask lane errand).task? = update trigger.task? trigger.next
      (some ⟨trigger.next, lane, errand, errand.procedure trigger.gate, false⟩) := by
  funext number
  by_cases same : number = trigger.next
  · have fresh := sound.fresh number (by omega)
    subst same
    simp only [task?] at fresh
    simp [addTask, task?, fresh]
  · simp [addTask, task?, update_of_ne same, Ne.symm same]

theorem task?_resumeTask (found : trigger.task? number = some task)
    (rest : Procedure Outcome) :
    (trigger.resumeTask number rest).task? =
      update trigger.task? number (some { task with rest, awaiting := false }) := by
  funext other
  simp only [resumeTask, task?]
  rw [find?_map_number _ (fun task => { task with rest, awaiting := false }) fun _ => rfl]
  by_cases same : other = number
  · subst same
    simp only [task?] at found
    simp [found]
  · simp [same, task?]

theorem task?_await (found : trigger.task? number = some task) :
    ({ trigger with
        tasks := trigger.tasks.map fun other =>
          if other.number = task.number then { other with awaiting := true } else other }
      : Trigger).task? =
      update trigger.task? number (some { task with awaiting := true }) := by
  funext other
  have known := number_of_task? found
  simp only [task?]
  rw [find?_map_number _ (fun task => { task with awaiting := true }) fun _ => rfl, known]
  by_cases same : other = number
  · subst same
    simp only [task?] at found
    simp [found, known]
  · simp [same, task?]

theorem task?_removeTask (found : trigger.task? number = some task) :
    (trigger.removeTask task).task? = update trigger.task? number none := by
  have known := number_of_task? found
  have tasks : (trigger.removeTask task).tasks =
      trigger.tasks.filter (·.number ≠ task.number) := by
    simp only [removeTask]
    split <;> simp
  funext other
  simp only [task?, tasks, List.find?_filter, known]
  by_cases same : other = number
  · subst same
    simp [List.find?_eq_none]
  · rw [update_of_ne same, task?]
    congr 1
    funext task
    by_cases this : task.number = other <;> simp [this, same]

end Trigger

end UnattendedRefresh
