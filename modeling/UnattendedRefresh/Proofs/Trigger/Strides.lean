import UnattendedRefresh.Proofs.Trigger.Lodging

/-!
# Strides of a task

A move that concerns a task takes it one point further in its procedure, has it wait for
an answer, or ends it; any other move leaves it where it stands and leaves it the worker
it has. So a task that goes on can only go on or end.
-/

namespace UnattendedRefresh

open Function

/-- Whether the effect is a step of this task. -/
def Effect.isOf (number : Nat) : Effect → Bool
  | called other _ => other = number
  | answered other _ => other = number
  | reported other _ => other = number
  | ended other _ => other = number
  | _ => false

namespace Trigger

variable {gate : Gate} {trigger after : Trigger} {record : Record} {news : List Effect}
  {number : Nat} {lane : Lane} {task mover : Task}

/-! ### One step of a task -/

/-- What a step makes of a task that goes on. -/
inductive Stride (task : Task) : Task → Prop where
  | wrote {entry : Journal.Entry} {rest : Procedure Outcome}
      (stands : task.rest = .report entry rest) :
      Stride task { task with rest, awaiting := false }
  | answered {question : Question} {resume : question.Answer → Procedure Outcome}
      (stands : task.rest = .ask question resume) (answer : question.Answer) :
      Stride task { task with rest := resume answer, awaiting := false }
  | called {question : Question} {resume : question.Answer → Procedure Outcome}
      (stands : task.rest = .ask question resume) (idle : task.awaiting = false) :
      Stride task { task with awaiting := true }

theorem Stride.same {next : Task} (stride : Stride task next) :
    next.number = task.number ∧ next.lane = task.lane := by
  cases stride <;> exact ⟨rfl, rfl⟩

/-- What becomes of a task on the table: it ends, nothing is told of it and it stays as it
is, or it makes a stride. -/
inductive Onward (after : Trigger) (news : List Effect) (task : Task) : Prop where
  | ended (ending : Option Outcome) (told : .ended task.number ending ∈ news)
  | still (found : after.task? task.number = some task)
      (silent : ∀ effect ∈ news, effect.isOf task.number = false)
  | strode {next : Task} (found : after.task? task.number = some next) (stride : Stride task next)
      (told : ∃ effect ∈ news, effect.isOf task.number = true)

theorem Onward.unmoved (found : trigger.task? task.number = some task)
    (same : after.task? = trigger.task?)
    (silent : ∀ effect ∈ news, effect.isOf task.number = false) : Onward after news task :=
  .still (same ▸ found) silent

/-- One task moves; whoever else is on the table stays as it is. -/
theorem Goes.onward_of_update {entry : Option Task} (goes : trigger.Goes mover)
    (found : trigger.task? task.number = some task)
    (table : after.task? = update trigger.task? mover.number entry)
    (silent : ∀ number, number ≠ mover.number → ∀ effect ∈ news, effect.isOf number = false)
    (own : (∃ next, entry = some next ∧ Stride mover next ∧
        ∃ effect ∈ news, effect.isOf mover.number = true) ∨
      ∃ ending, .ended mover.number ending ∈ news) : Onward after news task := by
  by_cases same : task.number = mover.number
  · have both : some task = some mover := by rw [← found, same, goes.found]
    obtain rfl := Option.some.inj both
    rcases own with ⟨next, rfl, stride, told⟩ | ⟨ending, told⟩
    · exact .strode (by rw [table, update_self]) stride told
    · exact .ended ending told
  · exact .still (by rw [table, update_of_ne same, found]) (silent task.number same)

theorem Deed.onward {effects : List Effect} (deed : Deed trigger after effects)
    (sound : trigger.Sound) (found : trigger.task? task.number = some task) :
    Onward after effects task := by
  have earlier := sound.lt_next found
  cases deed with
  | nothing => exact .unmoved found rfl (by simp)
  | refused refuses => exact .unmoved found rfl (by simp [Effect.isOf])
  | @admitted lane errand pool direct taken =>
      exact .still (sound.still_of_newcomer found lane pool errand) (by simp [Effect.isOf])
  | @begun errand direct =>
      refine .still ?_ (by simp [Effect.isOf])
      rw [task?_addTask sound none errand, update_of_ne (by omega), found]
  | started taken => exact .unmoved found (by simp) (by simp [Effect.isOf])
  | wrote goes stands =>
      refine goes.onward_of_update found (task?_resumeTask goes.found _) ?_
        (Or.inl ⟨_, rfl, .wrote stands, by simp [Effect.isOf]⟩)
      intro number other
      simp [Effect.isOf, Ne.symm other]
  | showed goes stands =>
      refine goes.onward_of_update found (task?_resumeTask goes.found _) ?_
        (Or.inl ⟨_, rfl, .answered stands _, by simp [Effect.isOf]⟩)
      intro number other
      simp [Effect.isOf, Ne.symm other]
  | @queued mover candidate settings resume pool goes stands taken =>
      have still :=
        sound.still_of_newcomer goes.found .dispatch pool (.scheduled candidate settings)
      have kept := sound.still_of_newcomer found .dispatch pool (.scheduled candidate settings)
      have table := task?_resumeTask still (resume (.ok ()))
      by_cases same : task.number = mover.number
      · have both : some task = some mover := by rw [← found, same, goes.found]
        obtain rfl := Option.some.inj both
        exact .strode (by rw [table, update_self]) (.answered stands _) (by simp [Effect.isOf])
      · refine .still (by rw [table, update_of_ne same, kept]) ?_
        simp [Effect.isOf, Ne.symm same]
  | turnedAway goes stands refuses =>
      refine goes.onward_of_update found (task?_resumeTask goes.found _) ?_
        (Or.inl ⟨_, rfl, .answered stands _, by simp [Effect.isOf]⟩)
      intro number other
      simp [Effect.isOf, Ne.symm other]
  | called goes stands external idle =>
      refine goes.onward_of_update found (task?_await goes.found) ?_
        (Or.inl ⟨_, rfl, .called stands idle, by simp [Effect.isOf]⟩)
      intro number other
      simp [Effect.isOf, Ne.symm other]
  | answered reply goes stands waits =>
      refine goes.onward_of_update found (task?_resumeTask goes.found _) ?_
        (Or.inl ⟨_, rfl, .answered stands _, by simp [Effect.isOf]⟩)
      intro number other
      simp [Effect.isOf, Ne.symm other]
  | ended goes stands =>
      refine goes.onward_of_update found (task?_removeTask goes.found) ?_
        (Or.inr ⟨_, List.mem_singleton_self _⟩)
      intro number other
      simp [Effect.isOf, Ne.symm other]
  | crashed goes noted =>
      refine goes.onward_of_update found (task?_removeTask goes.found) ?_
        (Or.inr ⟨none, by simp⟩)
      intro number other effect member
      rcases List.mem_append.mp member with note | last
      · rw [noted effect note]
        simp [Effect.isOf, Ne.symm other]
      · rw [List.mem_singleton.mp last]
        simp [Effect.isOf, Ne.symm other]
  | closedPasses => exact .unmoved found (task?_congr rfl) (by simp)
  | closedRefreshes => exact .unmoved found (task?_congr rfl) (by simp)
  | drained => exact .unmoved found (task?_congr rfl) (by simp [Effect.isOf])

theorem step_onward (sound : trigger.Sound) (found : trigger.task? task.number = some task)
    (move : Move) : Onward (trigger.step move).1 (trigger.step move).2 task := by
  rcases trigger.replaced_or_deed move with ⟨settings, rfl⟩ | deed
  · exact .unmoved found (task?_congr rfl) (by simp [step])
  · exact deed.onward sound found

/-! ### Workers -/

/-- There are workers, and no more jobs run than there are. -/
def Staffed (trigger : Trigger) : Prop :=
  ∀ lane, 0 < (trigger.pool lane).workers ∧
    (trigger.pool lane).running.length ≤ (trigger.pool lane).workers

theorem staffed_create (gate : Gate) (settings : Settings) (sizes : PoolSizes) :
    (create gate settings sizes).Staffed := by
  intro lane
  have least (workers : Nat) : 0 < max workers 1 := by omega
  cases lane <;> simp [pool, create, WorkerPool.create, least]

theorem Passage.workers_eq (passage : Passage trigger after news lane) :
    (after.pool lane).workers = (trigger.pool lane).workers := by
  cases passage with
  | kept pool_eq => rw [pool_eq]
  | submitted taken =>
      obtain ⟨-, -, same⟩ := WorkerPool.submit_eq_ok_iff.mp taken
      rw [same]
  | started number taken =>
      obtain ⟨-, -, same⟩ := WorkerPool.start?_eq_some_iff.mp taken
      rw [same]
  | finished number outcome told pool_eq =>
      rw [pool_eq]
      rfl
  | closed passes dispatch pool_eq =>
      rw [pool_eq]
      rfl

theorem Passage.running_le (passage : Passage trigger after news lane)
    (within : (trigger.pool lane).running.length ≤ (trigger.pool lane).workers) :
    (after.pool lane).running.length ≤ (trigger.pool lane).workers := by
  cases passage with
  | kept pool_eq => exact pool_eq ▸ within
  | submitted taken =>
      obtain ⟨-, -, same⟩ := WorkerPool.submit_eq_ok_iff.mp taken
      exact same ▸ within
  | started number taken =>
      obtain ⟨-, idle, same⟩ := WorkerPool.start?_eq_some_iff.mp taken
      rw [same]
      simpa using Nat.succ_le_of_lt idle
  | finished number outcome told pool_eq =>
      rw [pool_eq]
      exact Nat.le_trans List.erase_sublist.length_le within
  | closed passes dispatch pool_eq =>
      rw [pool_eq]
      exact within

theorem Staffed.extend (staffed : trigger.Staffed) (shift : Shift trigger after news) :
    after.Staffed := by
  intro lane
  obtain ⟨some_, within⟩ := staffed lane
  have passage := shift.passage lane
  rw [passage.workers_eq]
  exact ⟨some_, passage.running_le within⟩

/-- A task that runs goes on running until its end is told. -/
theorem Passage.runs (passage : Passage trigger after news lane)
    (runs : number ∈ (trigger.pool lane).running) :
    number ∈ (after.pool lane).running ∨ ∃ outcome, .ended number outcome ∈ news := by
  cases passage with
  | kept pool_eq => exact Or.inl (pool_eq ▸ runs)
  | submitted taken =>
      obtain ⟨-, -, same⟩ := WorkerPool.submit_eq_ok_iff.mp taken
      exact Or.inl (by rw [same]; exact runs)
  | started other taken =>
      obtain ⟨-, -, same⟩ := WorkerPool.start?_eq_some_iff.mp taken
      exact Or.inl (by rw [same]; exact List.mem_append_left _ runs)
  | finished other outcome told pool_eq =>
      by_cases same : number = other
      · exact Or.inr ⟨outcome, same ▸ told⟩
      · exact Or.inl (by rw [pool_eq]; exact (List.mem_erase_of_ne same).mpr runs)
  | closed passes dispatch pool_eq => exact Or.inl (by rw [pool_eq]; exact runs)

/-- A job waits until its start is told. -/
theorem Passage.waits (passage : Passage trigger after news lane)
    (waits : number ∈ (trigger.pool lane).waiting) :
    number ∈ (after.pool lane).waiting ∨ .started number ∈ news := by
  cases passage with
  | kept pool_eq => exact Or.inl (pool_eq ▸ waits)
  | submitted taken =>
      obtain ⟨-, -, same⟩ := WorkerPool.submit_eq_ok_iff.mp taken
      exact Or.inl (by rw [same]; exact List.mem_append_left _ waits)
  | started other taken told =>
      obtain ⟨-, -, same⟩ := WorkerPool.start?_eq_some_iff.mp taken
      by_cases own : number = other
      · exact Or.inr (own ▸ told)
      · exact Or.inl (by rw [same]; exact (List.mem_erase_of_ne own).mpr waits)
  | finished other outcome told pool_eq => exact Or.inl (by rw [pool_eq]; exact waits)
  | closed passes dispatch pool_eq => exact Or.inl (by rw [pool_eq]; exact waits)

theorem Goes.runs (goes : trigger.Goes task) (own : task.lane = some lane) :
    task.number ∈ (trigger.pool lane).running := by
  simpa [isMovable, own] using goes.movable

/-- A task on the table moves if it has no lane or runs. -/
theorem goes_of_runs (found : trigger.task? number = some task)
    (runs : ∀ lane, task.lane = some lane → number ∈ (trigger.pool lane).running) :
    trigger.Goes task := by
  have known := number_of_task? found
  refine ⟨known ▸ found, ?_⟩
  cases own : task.lane with
  | none => simp [isMovable, own]
  | some lane => simpa [isMovable, own, known] using runs lane own

/-- One move, seen from a task that goes on. -/
theorem Goes.step (goes : trigger.Goes task) (sound : trigger.Sound) (move : Move) :
    (∃ ending, .ended task.number ending ∈ (trigger.step move).2) ∨
    (trigger.step move).1.Goes task ∧
      (∀ effect ∈ (trigger.step move).2, effect.isOf task.number = false) ∨
    ∃ next, (trigger.step move).1.Goes next ∧ Stride task next ∧
      ∃ effect ∈ (trigger.step move).2, effect.isOf task.number = true := by
  have shift := (step_seated sound move).shift
  by_cases ends : ∃ ending, .ended task.number ending ∈ (trigger.step move).2
  · exact Or.inl ends
  · have stays : ∀ lane, task.lane = some lane →
        task.number ∈ ((trigger.step move).1.pool lane).running := by
      intro lane own
      rcases (shift.passage lane).runs (goes.runs own) with runs | ended
      · exact runs
      · exact absurd ended ends
    cases step_onward sound goes.found move with
    | ended ending told => exact absurd ⟨ending, told⟩ ends
    | still found silent => exact Or.inr (Or.inl ⟨goes_of_runs found stays, silent⟩)
    | @strode next found stride told =>
        refine Or.inr (Or.inr ⟨next, goes_of_runs found ?_, stride, told⟩)
        intro lane own
        exact stays lane (stride.same.2 ▸ own)

end Trigger

end UnattendedRefresh
