import UnattendedRefresh.Proofs.Trigger.Strides

/-!
# Fair schedules

A schedule is fair if every task that can go on does so at some time, with an answer or
with a crash, and if the jobs that wait are started as long as workers fall idle. Under
a fair schedule every task ends: its procedure is finite, and whoever ends gives its
worker back. Whatever has happened can go on fairly.
-/

namespace UnattendedRefresh

namespace Trigger

/-- An endless run so far: where the trigger stands after so many moves, and the record. -/
def evolve (trigger : Trigger) (moves : Nat → Move) (moment : Nat) : Trigger × Record :=
  trigger.run ((List.range moment).map moves)

/-- What the move at the moment does. -/
def happens (trigger : Trigger) (moves : Nat → Move) (moment : Nat) : List Effect :=
  ((trigger.evolve moves moment).1.step (moves moment)).2

/-- Every task that can go on does, and waiting jobs get workers as long as there are
some: no collaborator keeps a task for ever, and nobody is passed over for ever. -/
structure Fair (trigger : Trigger) (moves : Nat → Move) : Prop where
  goes_on : ∀ moment task, (trigger.evolve moves moment).1.Goes task →
    ∃ later ≥ moment, ∃ effect ∈ trigger.happens moves later, effect.isOf task.number = true
  starts : ∀ moment lane, ∀ job ∈ ((trigger.evolve moves moment).1.pool lane).waiting,
    (∀ from_, ∃ later ≥ from_,
      ((trigger.evolve moves later).1.pool lane).hasIdleWorker = true) →
    ∃ later ≥ moment, .started job ∈ trigger.happens moves later

/-! ### Endless runs -/

section Endless

variable {gate : Gate} {settings : Settings} {sizes : PoolSizes} {trigger : Trigger}
  {moves : Nat → Move} {moment later number : Nat} {lane : Lane} {task : Task}

theorem evolve_succ (trigger : Trigger) (moves : Nat → Move) (moment : Nat) :
    trigger.evolve moves (moment + 1) =
      (((trigger.evolve moves moment).1.step (moves moment)).1,
        (trigger.evolve moves moment).2 ++ trigger.happens moves moment) := by
  simp only [evolve, happens, List.range_succ, List.map_append, List.map_cons, List.map_nil,
    run_append, run_cons]
  simp [run]

theorem evolve_add (trigger : Trigger) (moves : Nat → Move) (moment count : Nat) :
    trigger.evolve moves (moment + count) =
      (((trigger.evolve moves moment).1.evolve (fun time => moves (moment + time)) count).1,
        (trigger.evolve moves moment).2 ++
          ((trigger.evolve moves moment).1.evolve
            (fun time => moves (moment + time)) count).2) := by
  simp only [evolve, List.range_add, List.map_append, List.map_map, run_append]
  rfl

/-- What was told stays told. -/
theorem evolve_extends (trigger : Trigger) (moves : Nat → Move) (before : moment ≤ later) :
    (trigger.evolve moves moment).2 <+: (trigger.evolve moves later).2 := by
  obtain ⟨count, rfl⟩ := Nat.exists_eq_add_of_le before
  rw [evolve_add]
  exact List.prefix_append _ _

theorem mem_evolve_of_happens {effect : Effect} (told : effect ∈ trigger.happens moves moment)
    (before : moment < later) : effect ∈ (trigger.evolve moves later).2 := by
  apply (evolve_extends trigger moves before).subset
  rw [evolve_succ]
  exact List.mem_append_right _ told

theorem chronicle_evolve (gate : Gate) (settings : Settings) (sizes : PoolSizes)
    (moves : Nat → Move) (moment : Nat) :
    Chronicle gate ((create gate settings sizes).evolve moves moment).1
      ((create gate settings sizes).evolve moves moment).2 :=
  chronicle_run gate settings sizes _

theorem housed_evolve (gate : Gate) (settings : Settings) (sizes : PoolSizes)
    (moves : Nat → Move) (moment : Nat) :
    Housed ((create gate settings sizes).evolve moves moment).1
      ((create gate settings sizes).evolve moves moment).2 :=
  housed_run gate settings sizes _

theorem staffed_evolve (gate : Gate) (settings : Settings) (sizes : PoolSizes)
    (moves : Nat → Move) (moment : Nat) :
    ((create gate settings sizes).evolve moves moment).1.Staffed := by
  induction moment with
  | zero => exact staffed_create gate settings sizes
  | succ moment ih =>
      have sound := (chronicle_evolve gate settings sizes moves moment).sound
      rw [evolve_succ]
      exact ih.extend (step_seated sound _).shift

theorem next_evolve_le (gate : Gate) (settings : Settings) (sizes : PoolSizes)
    (moves : Nat → Move) (before : moment ≤ later) :
    ((create gate settings sizes).evolve moves moment).1.next ≤
      ((create gate settings sizes).evolve moves later).1.next := by
  induction before with
  | refl => exact Nat.le_refl _
  | @step later _ ih =>
      have sound := (chronicle_evolve gate settings sizes moves later).sound
      rw [evolve_succ]
      exact Nat.le_trans ih (step_lawful sound _).next_le

/-- One move of an endless run, seen from a task that goes on. -/
theorem Goes.evolve_succ
    (goes : ((create gate settings sizes).evolve moves moment).1.Goes task) :
    (∃ ending, .ended task.number ending ∈ (create gate settings sizes).happens moves moment) ∨
    ((create gate settings sizes).evolve moves (moment + 1)).1.Goes task ∧
      (∀ effect ∈ (create gate settings sizes).happens moves moment,
        effect.isOf task.number = false) ∨
    ∃ next, ((create gate settings sizes).evolve moves (moment + 1)).1.Goes next ∧
      Stride task next ∧ ∃ effect ∈ (create gate settings sizes).happens moves moment,
        effect.isOf task.number = true := by
  have sound := (chronicle_evolve gate settings sizes moves moment).sound
  rw [Trigger.evolve_succ]
  exact goes.step sound (moves moment)

end Endless

/-! ### Every task ends -/

section Ends

variable {gate : Gate} {settings : Settings} {sizes : PoolSizes} {moves : Nat → Move}
  {moment number : Nat} {lane : Lane} {task : Task}

/-- A task that goes on makes a stride at some time or ends. -/
theorem Fair.strides (fair : Fair (create gate settings sizes) moves)
    (goes : ((create gate settings sizes).evolve moves moment).1.Goes task) :
    ∃ later ≥ moment,
      (∃ ending, .ended task.number ending ∈ (create gate settings sizes).happens moves later) ∨
      ∃ next, ((create gate settings sizes).evolve moves (later + 1)).1.Goes next ∧
        Stride task next := by
  obtain ⟨bound, isLater, effect, told, own⟩ := fair.goes_on moment task goes
  obtain ⟨gap, rfl⟩ := Nat.exists_eq_add_of_le isLater
  induction gap generalizing moment with
  | zero =>
      rcases goes.evolve_succ with ended | ⟨-, silent⟩ | ⟨next, goesOn, stride, -⟩
      · exact ⟨moment, Nat.le_refl _, Or.inl ended⟩
      · simp [silent effect told] at own
      · exact ⟨moment, Nat.le_refl _, Or.inr ⟨next, goesOn, stride⟩⟩
  | succ gap ih =>
      rcases goes.evolve_succ with ended | ⟨still, -⟩ | ⟨next, goesOn, stride, -⟩
      · exact ⟨moment, Nat.le_refl _, Or.inl ended⟩
      · have shift : moment + (gap + 1) = moment + 1 + gap := by omega
        rw [shift] at told
        obtain ⟨later, beyond, outcome⟩ := ih still (by omega) told
        exact ⟨later, by omega, outcome⟩
      · exact ⟨moment, Nat.le_refl _, Or.inr ⟨next, goesOn, stride⟩⟩

/-- The procedure of a task is finite, and at each question the task waits once. -/
theorem Fair.ends_of_goes (fair : Fair (create gate settings sizes) moves)
    (goes : ((create gate settings sizes).evolve moves moment).1.Goes task) :
    ∃ later ≥ moment, ∃ ending,
      .ended task.number ending ∈ (create gate settings sizes).happens moves later := by
  generalize stands : task.rest = rest
  induction rest generalizing moment task with
  | done outcome =>
      obtain ⟨later, isLater, ended | ⟨next, -, stride⟩⟩ := fair.strides goes
      · exact ⟨later, isLater, ended⟩
      · cases stride <;> simp_all
  | report entry rest ih =>
      obtain ⟨later, isLater, ended | ⟨next, goesOn, stride⟩⟩ := fair.strides goes
      · exact ⟨later, isLater, ended⟩
      · have own := stride.same.1
        have onward : next.rest = rest := by cases stride <;> simp_all
        obtain ⟨last, beyond, ended⟩ := ih goesOn onward
        exact ⟨last, by omega, own ▸ ended⟩
  | ask question resume ih =>
      -- Once it waits, the task can only get its answer or end.
      have waiting {moment : Nat} {task : Task}
          (goes : ((create gate settings sizes).evolve moves moment).1.Goes task)
          (stands : task.rest = .ask question resume) (waits : task.awaiting = true) :
          ∃ later ≥ moment, ∃ ending,
            .ended task.number ending ∈ (create gate settings sizes).happens moves later := by
        obtain ⟨later, isLater, ended | ⟨next, goesOn, stride⟩⟩ := fair.strides goes
        · exact ⟨later, isLater, ended⟩
        · have own := stride.same.1
          obtain ⟨answer, onward⟩ : ∃ answer, next.rest = resume answer := by
            cases stride with
            | wrote other => simp [stands] at other
            | answered same answer =>
                obtain ⟨rfl, alike⟩ := Procedure.ask.inj (stands.symm.trans same)
                exact ⟨answer, by rw [eq_of_heq alike]⟩
            | called same idle => simp [waits] at idle
          obtain ⟨last, beyond, ended⟩ := ih answer goesOn onward
          exact ⟨last, by omega, own ▸ ended⟩
      cases waits : task.awaiting with
      | true => exact waiting goes stands waits
      | false =>
          obtain ⟨later, isLater, ended | ⟨next, goesOn, stride⟩⟩ := fair.strides goes
          · exact ⟨later, isLater, ended⟩
          · have own := stride.same.1
            cases stride with
            | wrote other => simp [stands] at other
            | answered same answer =>
                obtain ⟨rfl, alike⟩ := Procedure.ask.inj (stands.symm.trans same)
                obtain ⟨last, beyond, ended⟩ := ih answer goesOn (by rw [eq_of_heq alike])
                exact ⟨last, by omega, own ▸ ended⟩
            | called same idle =>
                obtain ⟨last, beyond, ended⟩ := waiting goesOn stands rfl
                exact ⟨last, by omega, own ▸ ended⟩

/-- Whoever ends was on the table and went on. -/
theorem Deed.goes_of_ended {trigger after : Trigger} {effects : List Effect}
    {ending : Option Outcome} (deed : Deed trigger after effects)
    (told : .ended number ending ∈ effects) :
    ∃ task, trigger.Goes task ∧ task.number = number := by
  cases deed with
  | ended goes stands =>
      obtain ⟨rfl, -⟩ := Effect.ended.inj (List.mem_singleton.mp told)
      exact ⟨_, goes, rfl⟩
  | crashed goes noted =>
      rcases List.mem_append.mp told with note | last
      · have same := noted _ note
        simp at same
      · obtain ⟨rfl, -⟩ := Effect.ended.inj (List.mem_singleton.mp last)
        exact ⟨_, goes, rfl⟩
  | _ => simp at told

/-- A job that ends gives its worker back. -/
theorem running_of_ended {trigger : Trigger} {record : Record} {ending : Option Outcome}
    {move : Move} (chronicle : Chronicle gate trigger record) (housed : Housed trigger record)
    (runs : number ∈ (trigger.pool lane).running)
    (told : .ended number ending ∈ (trigger.step move).2) :
    ((trigger.step move).1.pool lane).running.length + 1 =
      (trigger.pool lane).running.length := by
  have lawful := step_lawful chronicle.sound move
  have later := housed.extend chronicle lawful.next_le (step_lodging chronicle.sound move)
  have gone : number ∉ ((trigger.step move).1.pool lane).running := by
    intro still
    have seated := (later.jobs_iff number lane).mp (List.mem_append_right _ still)
    have unended := ((later.seat_iff number lane).mp seated).2
    rw [Record.endings_append, List.append_eq_nil_iff] at unended
    have member := Record.mem_endings_iff.mpr told
    rw [unended.2] at member
    exact List.not_mem_nil member
  have shift := (step_seated chronicle.sound move).shift
  cases shift.passage lane with
  | kept pool_eq => exact absurd (pool_eq ▸ runs) gone
  | submitted taken =>
      obtain ⟨-, -, same⟩ := WorkerPool.submit_eq_ok_iff.mp taken
      rw [same] at gone
      exact absurd runs gone
  | started other taken =>
      obtain ⟨-, -, same⟩ := WorkerPool.start?_eq_some_iff.mp taken
      rw [same] at gone
      exact absurd (List.mem_append_left _ runs) gone
  | finished other outcome own pool_eq =>
      rw [pool_eq] at gone ⊢
      obtain rfl : number = other := by
        by_contra different
        exact gone ((List.mem_erase_of_ne different).mpr runs)
      have positive := List.length_pos_of_mem runs
      rw [WorkerPool.finish_running, List.length_erase_of_mem runs]
      omega
  | closed passes dispatch pool_eq =>
      rw [pool_eq] at gone
      exact absurd runs gone

/-- A job of a pool is on the table, with the lane of the pool. -/
theorem Housed.task_of_job {trigger : Trigger} {record : Record} (housed : Housed trigger record)
    (job : number ∈ trigger.jobs lane) :
    ∃ task, trigger.task? number = some task ∧ task.lane = some lane := by
  have seated := (housed.jobs_iff number lane).mp job
  simpa [seat] using seated

theorem Housed.goes_of_running {trigger : Trigger} {record : Record}
    (housed : Housed trigger record) (runs : number ∈ (trigger.pool lane).running) :
    ∃ task, trigger.Goes task ∧ task.number = number := by
  obtain ⟨task, found, own⟩ := housed.task_of_job (List.mem_append_right _ runs)
  refine ⟨task, goes_of_runs found ?_, number_of_task? found⟩
  intro other same
  obtain rfl := Option.some.inj (own.symm.trans same)
  exact runs

theorem Fair.ends_of_running (fair : Fair (create gate settings sizes) moves)
    (runs : number ∈ (((create gate settings sizes).evolve moves moment).1.pool lane).running) :
    ∃ later ≥ moment, ∃ ending,
      .ended number ending ∈ (create gate settings sizes).happens moves later := by
  obtain ⟨task, goes, rfl⟩ :=
    (housed_evolve gate settings sizes moves moment).goes_of_running runs
  exact fair.ends_of_goes goes

/-- A job that runs is run by its pool until it ends. -/
theorem runs_of_ended {later : Nat} {ending : Option Outcome} (before : moment ≤ later)
    (runs : number ∈ (((create gate settings sizes).evolve moves moment).1.pool lane).running)
    (told : .ended number ending ∈ (create gate settings sizes).happens moves later) :
    number ∈ (((create gate settings sizes).evolve moves later).1.pool lane).running := by
  have housed := housed_evolve gate settings sizes moves moment
  have housedLater := housed_evolve gate settings sizes moves later
  have chronicle := chronicle_evolve gate settings sizes moves later
  have seated := (housed.jobs_iff number lane).mp (List.mem_append_right _ runs)
  have accepted := Record.mem_accepted_iff.mp ((housed.seat_iff number lane).mp seated).1
  obtain ⟨task, goes, rfl⟩ : ∃ task,
      ((create gate settings sizes).evolve moves later).1.Goes task ∧ task.number = number := by
    rcases replaced_or_deed _ (moves later) with ⟨settings, same⟩ | deed
    · rw [happens, same] at told
      simp [step] at told
    · exact deed.goes_of_ended told
  have unended := (chronicle.underWay goes.standing).2.1
  have still := Record.mem_accepted_iff.mpr ((evolve_extends _ moves before).subset accepted)
  have seatedLater := (housedLater.seat_iff task.number lane).mpr ⟨still, unended⟩
  rw [seat_of_task? goes.found, Option.some.injEq] at seatedLater
  exact goes.runs seatedLater

/-- Workers fall idle again and again: if all are taken, one of their jobs ends. -/
theorem Fair.idle_again (fair : Fair (create gate settings sizes) moves) (lane : Lane)
    (moment : Nat) : ∃ later ≥ moment,
      (((create gate settings sizes).evolve moves later).1.pool lane).hasIdleWorker = true := by
  have staffed := staffed_evolve gate settings sizes moves
  simp only [WorkerPool.hasIdleWorker_iff]
  obtain ⟨some_, within⟩ := staffed moment lane
  rcases Nat.lt_or_eq_of_le within with idle | busy
  · exact ⟨moment, Nat.le_refl _, idle⟩
  · have taken : 0 <
        (((create gate settings sizes).evolve moves moment).1.pool lane).running.length := by
      omega
    obtain ⟨job, runs⟩ := List.exists_mem_of_length_pos taken
    obtain ⟨later, isLater, ending, ended⟩ := fair.ends_of_running runs
    have still := runs_of_ended isLater runs ended
    have chronicle := chronicle_evolve gate settings sizes moves later
    have housed := housed_evolve gate settings sizes moves later
    have fewer := running_of_ended chronicle housed still ended
    have passage := (step_seated chronicle.sound (moves later)).shift.passage lane
    refine ⟨later + 1, by omega, ?_⟩
    rw [evolve_succ, passage.workers_eq]
    have bound := (staffed later lane).2
    have fallen := Nat.lt_of_succ_le (Nat.le_of_eq fewer)
    exact Nat.lt_of_lt_of_le fallen bound

/-- A job that was started runs. -/
theorem Deed.runs_of_started {trigger after : Trigger} {effects : List Effect}
    (deed : Deed trigger after effects) (given : number < trigger.next)
    (told : .started number ∈ effects) : ∃ lane, number ∈ (after.pool lane).running := by
  cases deed with
  | @started lane job pool taken =>
      obtain ⟨rfl⟩ := Effect.started.inj (List.mem_singleton.mp told)
      obtain ⟨-, -, rfl⟩ := WorkerPool.start?_eq_some_iff.mp taken
      exact ⟨lane, by simp⟩
  | begun direct =>
      obtain rfl : number = trigger.next := by simpa using told
      omega
  | crashed goes noted =>
      rcases List.mem_append.mp told with note | last
      · have same := noted _ note
        simp at same
      · simp at last
  | _ => simp at told

/-- A job of a pool ends, whether it waits or runs. -/
theorem Fair.ends_of_job (fair : Fair (create gate settings sizes) moves)
    (job : number ∈ ((create gate settings sizes).evolve moves moment).1.jobs lane) :
    ∃ later ≥ moment, ∃ ending,
      .ended number ending ∈ (create gate settings sizes).happens moves later := by
  rcases List.mem_append.mp job with waits | runs
  · obtain ⟨started, isLater, told⟩ := fair.starts moment lane number waits (fair.idle_again lane)
    have housed := housed_evolve gate settings sizes moves moment
    have accepted := ((housed.seat_iff number lane).mp ((housed.jobs_iff number lane).mp job)).1
    have given : number < ((create gate settings sizes).evolve moves started).1.next :=
      Nat.lt_of_lt_of_le (housed.given lane number accepted)
        (next_evolve_le gate settings sizes moves isLater)
    obtain ⟨own, runs⟩ : ∃ own, number ∈
        (((create gate settings sizes).evolve moves (started + 1)).1.pool own).running := by
      rw [evolve_succ]
      rcases replaced_or_deed _ (moves started) with ⟨settings, same⟩ | deed
      · rw [happens, same] at told
        simp [step] at told
      · exact deed.runs_of_started given told
    obtain ⟨later, beyond, ended⟩ := fair.ends_of_running runs
    exact ⟨later, by omega, ended⟩
  · exact fair.ends_of_running runs

theorem Fair.eventually_ended (fair : Fair (create gate settings sizes) moves) {errand : Errand}
    (begun : .begun number errand ∈ ((create gate settings sizes).evolve moves moment).2) :
    ∃ settled ending,
      .ended number ending ∈ ((create gate settings sizes).evolve moves settled).2 := by
  have chronicle := chronicle_evolve gate settings sizes moves moment
  have housed := housed_evolve gate settings sizes moves moment
  have life := chronicle.lives number
  cases ends : Record.endings ((create gate settings sizes).evolve moves moment).2 number with
  | cons ending others =>
      exact ⟨moment, ending, Record.mem_endings_iff.mp (by simp [ends])⟩
  | nil =>
      rw [ends] at life
      obtain ⟨rest, stood⟩ := life.of_unended (Record.mem_errands_iff.mpr begun)
      obtain ⟨task, found, -⟩ := Option.map_eq_some_iff.mp stood
      have later : ∃ later ≥ moment, ∃ ending,
          .ended number ending ∈ (create gate settings sizes).happens moves later := by
        cases own : task.lane with
        | none =>
            have goes := goes_of_runs found (by simp [own])
            exact number_of_task? found ▸ fair.ends_of_goes goes
        | some lane =>
            have seated := seat_of_task? found
            rw [own] at seated
            exact fair.ends_of_job ((housed.jobs_iff number lane).mpr seated)
      obtain ⟨settled, -, ending, told⟩ := later
      exact ⟨settled + 1, ending, mem_evolve_of_happens told (Nat.lt_succ_self _)⟩

/-- Every task that has begun ends, once, and from then on no pool holds it. -/
theorem Fair.completes (fair : Fair (create gate settings sizes) moves) {errand : Errand}
    (begun : .begun number errand ∈ ((create gate settings sizes).evolve moves moment).2) :
    ∃ settled, ∀ later ≥ settled,
      (Record.endings ((create gate settings sizes).evolve moves later).2 number).length = 1 ∧
        ∀ lane, number ∉ ((create gate settings sizes).evolve moves later).1.jobs lane := by
  obtain ⟨settled, ending, ended⟩ := fair.eventually_ended begun
  refine ⟨settled, fun later isLater => ?_⟩
  have told := (evolve_extends (create gate settings sizes) moves isLater).subset ended
  have member := Record.mem_endings_iff.mpr told
  have once := ((chronicle_evolve gate settings sizes moves later).lives number).length_endings_le
  have some_ := List.length_pos_of_mem member
  refine ⟨by omega, fun lane job => ?_⟩
  have housed := housed_evolve gate settings sizes moves later
  have unended := ((housed.seat_iff number lane).mp ((housed.jobs_iff number lane).mp job)).2
  rw [unended] at member
  exact List.not_mem_nil member

end Ends

end Trigger

end UnattendedRefresh
