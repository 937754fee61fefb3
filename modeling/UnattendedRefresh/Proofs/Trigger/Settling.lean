import UnattendedRefresh.Proofs.Pool.Fairness
import UnattendedRefresh.Proofs.Trigger.Fairness

/-!
# Settling down

Whatever state a trigger has come to, it can come to rest from there: while tasks are
left, one of them runs or can be started, and it may crash. A schedule that comes to rest
is fair, so every run can go on fairly.
-/

namespace UnattendedRefresh

namespace Trigger

section Round

variable {gate : Gate} {trigger : Trigger} {record : Record} {number : Nat} {lane : Lane}
  {task : Task}

theorem removeTask_tasks (trigger : Trigger) (task : Task) :
    (trigger.removeTask task).tasks = trigger.tasks.filter (·.number ≠ task.number) := by
  unfold removeTask
  cases task.lane <;> simp

/-- A crash leaves fewer tasks. -/
theorem Goes.crash (goes : trigger.Goes task) :
    (trigger.step (.crash task.number)).1.tasks.length < trigger.tasks.length := by
  have crashed : (trigger.step (.crash task.number)).1 = trigger.removeTask task := by
    rw [Trigger.step, withTask, goes.found]
    simp only [goes.movable, if_true]
    rfl
  have member : task ∈ trigger.tasks := List.mem_of_find?_eq_some goes.found
  rw [crashed, removeTask_tasks, List.length_filter_lt_length_iff_exists]
  exact ⟨task, member, by simp⟩

/-- A waiting job that gets an idle worker runs, and the tasks are the same. -/
theorem step_start (waits : number ∈ (trigger.pool lane).waiting)
    (idle : (trigger.pool lane).running.length < (trigger.pool lane).workers) :
    (trigger.step (.start lane number)).1.tasks = trigger.tasks ∧
      number ∈ ((trigger.step (.start lane number)).1.pool lane).running := by
  have taken := WorkerPool.start?_eq_some_iff.mpr ⟨waits, idle, rfl⟩
  simp [step, startMove, taken]

/-- While there are tasks, at most two moves leave fewer of them. -/
theorem exists_round (housed : Housed trigger record) (staffed : trigger.Staffed)
    (busy : trigger.tasks ≠ []) :
    ∃ moves, (trigger.run moves).1.tasks.length < trigger.tasks.length := by
  obtain ⟨task, others, tasks_eq⟩ := List.exists_cons_of_ne_nil busy
  have found : trigger.task? task.number = some task := by simp [task?, tasks_eq]
  cases own : task.lane with
  | none =>
      have goes := goes_of_runs found (by simp [own])
      exact ⟨[.crash task.number], goes.crash⟩
  | some lane =>
      have seated := seat_of_task? found
      rw [own] at seated
      have alone : ∀ other, task.lane = some other → other = lane := by
        intro other same
        exact Option.some.inj (same.symm.trans own)
      rcases List.mem_append.mp ((housed.jobs_iff task.number lane).mpr seated) with waits | runs
      · by_cases idle : (trigger.pool lane).running.length < (trigger.pool lane).workers
        · obtain ⟨same, runs⟩ := step_start waits idle
          have still := task?_congr same ▸ found
          have goes := goes_of_runs still fun other mine => alone other mine ▸ runs
          refine ⟨[.start lane task.number, .crash task.number], ?_⟩
          have fewer := goes.crash
          rwa [same] at fewer
        · have taken : 0 < (trigger.pool lane).running.length := by
            have workers := (staffed lane).1
            omega
          obtain ⟨job, runs⟩ := List.exists_mem_of_length_pos taken
          obtain ⟨other, goes, rfl⟩ := housed.goes_of_running runs
          exact ⟨[.crash other.number], goes.crash⟩
      · have goes := goes_of_runs found fun other mine => alone other mine ▸ runs
        exact ⟨[.crash task.number], goes.crash⟩

end Round

section Rest

variable {gate : Gate} {settings : Settings} {sizes : PoolSizes} {moves : List Move}
  {moment : Nat}

/-- The moves, and then nothing but an attempt to start a job that nobody waits for. -/
def prolonged (moves : List Move) (moment : Nat) : Move :=
  moves.getD moment (.start .pass 0)

theorem range_prolonged (moves later : List Move) :
    (List.range moves.length).map (prolonged (moves ++ later)) = moves :=
  map_getD_range_append moves later _

theorem staffed_run (gate : Gate) (settings : Settings) (sizes : PoolSizes) (moves : List Move) :
    ((create gate settings sizes).run moves).1.Staffed := by
  have staffed := staffed_evolve gate settings sizes (prolonged moves) moves.length
  have same := range_prolonged moves []
  rw [List.append_nil] at same
  rwa [evolve, same] at staffed

theorem exists_settled (gate : Gate) (settings : Settings) (sizes : PoolSizes)
    (moves : List Move) :
    ∃ later, ((create gate settings sizes).run (moves ++ later)).1.tasks = [] := by
  generalize measure : ((create gate settings sizes).run moves).1.tasks.length = count
  induction count using Nat.strongRecOn generalizing moves with
  | _ count ih =>
      by_cases rest : ((create gate settings sizes).run moves).1.tasks = []
      · exact ⟨[], by rwa [List.append_nil]⟩
      · have housed := housed_run gate settings sizes moves
        have staffed := staffed_run gate settings sizes moves
        obtain ⟨round, fewer⟩ := exists_round housed staffed rest
        have split := congrArg Prod.fst (run_append (create gate settings sizes) moves round)
        rw [measure] at fewer
        obtain ⟨later, settled⟩ := ih _ fewer (moves ++ round) (by rw [split])
        exact ⟨round ++ later, by rwa [← List.append_assoc]⟩

/-- At rest nobody is in a pool. -/
theorem jobs_of_rest {trigger : Trigger} {record : Record} (housed : Housed trigger record)
    (rest : trigger.tasks = []) (lane : Lane) : trigger.jobs lane = [] := by
  rw [List.eq_nil_iff_forall_not_mem]
  intro number job
  obtain ⟨task, found, -⟩ := housed.task_of_job job
  simp [task?, rest] at found

/-- A trigger at rest stays at rest. -/
theorem rest_prolonged (rest : ((create gate settings sizes).run moves).1.tasks = [])
    (beyond : moves.length ≤ moment) :
    ((create gate settings sizes).evolve (prolonged moves) moment).1.tasks = [] := by
  induction beyond with
  | refl =>
      have same := range_prolonged moves []
      rw [List.append_nil] at same
      rwa [evolve, same]
  | @step moment beyond ih =>
      have housed := housed_evolve gate settings sizes (prolonged moves) moment
      have none := jobs_of_rest housed ih .pass
      have idle : prolonged moves moment = .start .pass 0 := by
        have outside := List.getElem?_eq_none beyond
        simp [prolonged, outside]
      have waits : 0 ∉ (((create gate settings sizes).evolve
          (prolonged moves) moment).1.pool .pass).waiting := by
        intro job
        have listed := List.mem_append_left
          (((create gate settings sizes).evolve (prolonged moves) moment).1.pool .pass).running job
        have member : 0 ∈ jobs _ .pass := listed
        rw [none] at member
        exact List.not_mem_nil member
      rw [evolve_succ, idle]
      simpa [step, startMove, WorkerPool.start?, waits] using ih

theorem fair_prolonged (rest : ((create gate settings sizes).run moves).1.tasks = []) :
    Fair (create gate settings sizes) (prolonged moves) where
  goes_on moment task goes := by
    -- As long as nothing is told of the task it goes on, and at rest it is gone.
    have either (count : Nat) :
        (∃ later ≥ moment, ∃ effect ∈ (create gate settings sizes).happens (prolonged moves) later,
          effect.isOf task.number = true) ∨
        ((create gate settings sizes).evolve (prolonged moves) (moment + count)).1.Goes task := by
      induction count with
      | zero => exact Or.inr goes
      | succ count ih =>
          rcases ih with told | still
          · exact Or.inl told
          · rcases still.evolve_succ with ⟨ending, ended⟩ | ⟨further, -⟩ | ⟨_, -, -, told⟩
            · exact Or.inl ⟨moment + count, by omega, _, ended, by simp [Effect.isOf]⟩
            · exact Or.inr further
            · exact Or.inl ⟨moment + count, by omega, told⟩
    rcases either moves.length with told | still
    · exact told
    · have found := still.found
      have none := rest_prolonged rest (Nat.le_add_left moves.length moment)
      simp [task?, none] at found
  starts moment lane job waits _ := by
    have either (count : Nat) :
        (∃ later ≥ moment,
          .started job ∈ (create gate settings sizes).happens (prolonged moves) later) ∨
        job ∈ (((create gate settings sizes).evolve (prolonged moves)
          (moment + count)).1.pool lane).waiting := by
      induction count with
      | zero => exact Or.inr waits
      | succ count ih =>
          rcases ih with told | still
          · exact Or.inl told
          · have sound :=
              (chronicle_evolve gate settings sizes (prolonged moves) (moment + count)).sound
            have shift := (step_seated sound (prolonged moves (moment + count))).shift
            rcases (shift.passage lane).waits still with further | told
            · refine Or.inr ?_
              rw [← Nat.add_assoc, evolve_succ]
              exact further
            · exact Or.inl ⟨moment + count, by omega, told⟩
    rcases either moves.length with told | still
    · exact told
    · have housed := housed_evolve gate settings sizes (prolonged moves) (moment + moves.length)
      have none := rest_prolonged rest (Nat.le_add_left moves.length moment)
      have gone := jobs_of_rest housed none lane
      have member := List.mem_append_left (((create gate settings sizes).evolve (prolonged moves)
        (moment + moves.length)).1.pool lane).running still
      have listed : job ∈ jobs _ lane := member
      rw [gone] at listed
      exact absurd listed List.not_mem_nil

/-- Whatever has happened can go on fairly. -/
theorem exists_fair (gate : Gate) (settings : Settings) (sizes : PoolSizes) (moves : List Move) :
    ∃ schedule, (List.range moves.length).map schedule = moves ∧
      Fair (create gate settings sizes) schedule := by
  obtain ⟨later, rest⟩ := exists_settled gate settings sizes moves
  exact ⟨prolonged (moves ++ later), range_prolonged moves later, fair_prolonged rest⟩

end Rest

end Trigger

end UnattendedRefresh
