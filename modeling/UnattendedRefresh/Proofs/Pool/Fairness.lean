import UnattendedRefresh.Proofs.Pool.Session
import Mathlib.Order.Basic

/-!
# Fair schedules of a pool

A schedule says what is done with a pool at every moment, without end. It is fair if
every job that runs is let end, and every job that could be started again and again is
started. That jobs which wait can be started again and again is then for the pool to
see to: a job that ends leaves its worker idle, even if it ends by a crash. Whatever has
been done with a pool can go on fairly.
-/

namespace UnattendedRefresh

/-- A list at whose end something else goes on begins with its own elements. -/
theorem map_getD_range_append {Element : Type} (elements later : List Element)
    (idle : Element) :
    (List.range elements.length).map (fun index => (elements ++ later).getD index idle) =
      elements := by
  apply List.ext_getElem
  · simp
  · intro index inside _
    have bound : index < elements.length := by simpa using inside
    simp [List.getElem?_append_left bound, bound]

theorem PoolEvent.starts_iff {job : Nat} {event : PoolEvent} :
    event.starts job = true ↔ event = .started job := by
  cases event <;> simp [PoolEvent.starts]

theorem PoolEvent.ends_iff {job : Nat} {event : PoolEvent} :
    event.ends job = true ↔ ∃ crashed, event = .ended job crashed := by
  cases event <;> simp [PoolEvent.ends]

namespace PoolSession

section Step

variable {session after : PoolSession} {events : List PoolEvent} {job : Nat} {crashed : Bool}

/-- What a pool is made with never changes. -/
theorem Change.fixed (change : Change session after events) :
    after.pool.name = session.pool.name ∧ after.pool.workers = session.pool.workers ∧
      after.pool.capacity = session.pool.capacity := by
  cases change <;> exact ⟨rfl, rfl, rfl⟩

/-- No more jobs run than there are workers. -/
theorem Change.running_le (change : Change session after events)
    (within : session.pool.running.length ≤ session.pool.workers) :
    after.pool.running.length ≤ after.pool.workers := by
  cases change with
  | started job member idle => simpa using Nat.succ_le_of_lt idle
  | ended job crashed member =>
      exact Nat.le_trans List.erase_sublist.length_le within
  | _ => exact within

theorem Change.mem_running_of_ended (change : Change session after events)
    (ended : .ended job crashed ∈ events) : job ∈ session.pool.running := by
  cases change with
  | ended other otherCrashed member => simp_all
  | _ => simp at ended

/-- A job that ends leaves its worker idle. -/
theorem Change.running_length_of_ended (change : Change session after events)
    (ended : .ended job crashed ∈ events) :
    after.pool.running.length = session.pool.running.length - 1 := by
  cases change with
  | ended other otherCrashed member => exact List.length_erase_of_mem member
  | _ => simp at ended

/-- A job waits until it is started. -/
theorem Change.waits_or_starts (change : Change session after events)
    (waits : job ∈ session.pool.waiting) :
    job ∈ after.pool.waiting ∨ ∃ event ∈ events, event.starts job = true := by
  cases change with
  | accepted => exact Or.inl (List.mem_append_left _ waits)
  | started other member idle =>
      by_cases same : job = other
      · exact Or.inr ⟨_, List.mem_singleton_self _, by simp [PoolEvent.starts, same]⟩
      · exact Or.inl ((List.mem_erase_of_ne same).mpr waits)
  | _ => exact Or.inl waits

/-- A job runs until it ends. -/
theorem Change.runs_or_ends (change : Change session after events)
    (runs : job ∈ session.pool.running) :
    job ∈ after.pool.running ∨ ∃ event ∈ events, event.ends job = true := by
  cases change with
  | started other member idle => exact Or.inl (List.mem_append_left _ runs)
  | ended other crashed member =>
      by_cases same : job = other
      · exact Or.inr ⟨_, List.mem_singleton_self _, by simp [PoolEvent.ends, same]⟩
      · exact Or.inl ((List.mem_erase_of_ne same).mpr runs)
  | _ => exact Or.inl runs

theorem step_start (able : (session.pool.start? job).isSome = true) :
    (session.step (.start job)).2 = [.started job] := by
  obtain ⟨pool, taken⟩ := Option.isSome_iff_exists.mp able
  simp [step, taken]

theorem step_finish (runs : job ∈ session.pool.running) (crashed : Bool) :
    session.step (.finish job crashed) =
      ({ session with pool := session.pool.finish job }, [.ended job crashed]) :=
  if_pos runs

/-- A job ends by nothing but its own end. -/
theorem act_of_ended {act : PoolAct} (ended : .ended job crashed ∈ (session.step act).2) :
    act = .finish job crashed := by
  cases act with
  | submit => cases answer : session.pool.submit session.next <;> simp [step, answer] at ended
  | start other => cases answer : session.pool.start? other <;> simp [step, answer] at ended
  | finish other otherCrashed =>
      by_cases member : other ∈ session.pool.running
      · rw [step_finish member] at ended
        obtain ⟨rfl, rfl⟩ := PoolEvent.ended.inj (List.mem_singleton.mp ended)
        rfl
      · simp [step, member] at ended
  | shutdown => simp [step] at ended
  | awaitDrain call =>
      by_cases drained : call ∈ session.shutdowns ∧ session.pool.isDrained = true <;>
        simp [step, drained] at ended

end Step

section Run

variable (session : PoolSession) (acts : List PoolAct)

theorem run_fixed :
    (session.run acts).1.pool.name = session.pool.name ∧
      (session.run acts).1.pool.workers = session.pool.workers ∧
      (session.run acts).1.pool.capacity = session.pool.capacity := by
  induction acts generalizing session with
  | nil => simp [run]
  | cons act acts ih =>
      have first := (step_change session act).fixed
      simpa [run, first] using ih (session.step act).1

theorem run_running_le (within : session.pool.running.length ≤ session.pool.workers) :
    (session.run acts).1.pool.running.length ≤ (session.run acts).1.pool.workers := by
  induction acts generalizing session with
  | nil => simpa [run] using within
  | cons act acts ih => simpa [run] using ih _ ((step_change session act).running_le within)

/-- Every pool has a worker. -/
theorem run_staffed (name : String) (workers queue : Nat) :
    0 < ((create name workers queue).run acts).1.pool.workers := by
  have fixed : _ = max workers 1 := (run_fixed (create name workers queue) acts).2.1
  omega

end Run

/-! ### Runs without end -/

section Endless

variable (session : PoolSession) (acts : Nat → PoolAct)

/-- Where an endless run stands after so many acts, and its record so far. -/
def after (moment : Nat) : PoolSession × List PoolEvent :=
  session.run ((List.range moment).map acts)

def eventsAt (moment : Nat) : List PoolEvent :=
  ((session.after acts moment).1.step (acts moment)).2

theorem after_succ (moment : Nat) :
    session.after acts (moment + 1) =
      (((session.after acts moment).1.step (acts moment)).1,
        (session.after acts moment).2 ++ session.eventsAt acts moment) := by
  simp only [after, eventsAt, List.range_succ, List.map_append, List.map_cons, List.map_nil]
  exact run_snoc session _ _

theorem step_change_after (moment : Nat) :
    Change (session.after acts moment).1 (session.after acts (moment + 1)).1
      (session.eventsAt acts moment) := by
  rw [after_succ]
  exact step_change _ _

/-- The record of an endless run only grows. -/
theorem countP_after_le (test : PoolEvent → Bool) {earlier later : Nat}
    (ordered : earlier ≤ later) :
    (session.after acts earlier).2.countP test ≤ (session.after acts later).2.countP test := by
  induction ordered with
  | refl => exact Nat.le_refl _
  | step _ ih =>
      rw [after_succ, List.countP_append]
      omega

/-- What was told stays told. -/
theorem after_subset {earlier later : Nat} (ordered : earlier ≤ later) :
    (session.after acts earlier).2 ⊆ (session.after acts later).2 := by
  induction ordered with
  | refl => exact List.Subset.refl _
  | step _ ih =>
      rw [after_succ]
      exact List.subset_append_of_subset_left _ ih

theorem mem_after_of_mem_eventsAt {moment : Nat} {event : PoolEvent}
    (member : event ∈ session.eventsAt acts moment) :
    event ∈ (session.after acts (moment + 1)).2 := by
  rw [after_succ]
  exact List.mem_append_right _ member

/-- What every act keeps, or tells the end of, lasts until its end is told. -/
theorem lasts_or_told {holds : PoolSession → Prop} {test : PoolEvent → Bool}
    (kept : ∀ {before next : PoolSession} {events : List PoolEvent},
      Change before next events → holds before →
        holds next ∨ ∃ event ∈ events, test event = true)
    {earlier later : Nat} (ordered : earlier ≤ later)
    (begins : holds (session.after acts earlier).1) :
    holds (session.after acts later).1 ∨
      ∃ moment ≥ earlier, ∃ event ∈ session.eventsAt acts moment, test event = true := by
  induction ordered with
  | refl => exact Or.inl begins
  | @step moment isLater ih =>
      rcases ih with still | told
      · rcases kept (step_change_after session acts moment) still with onward | now
        · exact Or.inl onward
        · exact Or.inr ⟨moment, isLater, now⟩
      · exact Or.inr told

/-- Every running job is let end at some time, well or by a crash, and a job that the
pool would start again and again is given its start. -/
structure Fair : Prop where
  ends : ∀ moment, ∀ job ∈ (session.after acts moment).1.pool.running,
    ∃ later ≥ moment, ∃ crashed, acts later = .finish job crashed
  starts : ∀ job moment,
    (∀ since, ∃ later ≥ since,
      ((session.after acts later).1.pool.start? job).isSome = true) →
    ∃ later ≥ moment, acts later = .start job ∧
      ((session.after acts later).1.pool.start? job).isSome = true

end Endless

section Progress

variable {session : PoolSession} {name : String} {workers queue : Nat} {acts : Nat → PoolAct}
  {moment job : Nat}

theorem Fair.ended_of_running (fair : Fair session acts)
    (runs : job ∈ (session.after acts moment).1.pool.running) :
    ∃ later ≥ moment, ∃ crashed, .ended job crashed ∈ session.eventsAt acts later := by
  obtain ⟨later, isLater, crashed, finishes⟩ := fair.ends moment job runs
  rcases lasts_or_told session acts (fun change => change.runs_or_ends) isLater runs with
    still | ⟨time, since, event, member, ends⟩
  · refine ⟨later, isLater, crashed, ?_⟩
    rw [eventsAt, finishes, step_finish still]
    exact List.mem_singleton_self _
  · obtain ⟨crashed, rfl⟩ := PoolEvent.ends_iff.mp ends
    exact ⟨time, since, crashed, member⟩

/-- Workers fall idle again and again: if all are taken, one of their jobs ends,
and that gives its worker back even if it ends by a crash. -/
theorem Fair.idle_again (fair : Fair (create name workers queue) acts) (moment : Nat) :
    ∃ later ≥ moment,
      ((create name workers queue).after acts later).1.pool.running.length <
        ((create name workers queue).after acts later).1.pool.workers := by
  have within (time : Nat) :
      ((create name workers queue).after acts time).1.pool.running.length ≤
        ((create name workers queue).after acts time).1.pool.workers :=
    run_running_le _ _ (Nat.zero_le _)
  by_cases idle : ((create name workers queue).after acts moment).1.pool.running.length <
      ((create name workers queue).after acts moment).1.pool.workers
  · exact ⟨moment, Nat.le_refl _, idle⟩
  · -- All workers are taken, so some job runs; it ends and leaves its worker idle.
    have busy : 0 < ((create name workers queue).after acts moment).1.pool.running.length := by
      have staffed : 0 < ((create name workers queue).after acts moment).1.pool.workers :=
        run_staffed _ name workers queue
      omega
    obtain ⟨job, runs⟩ := List.exists_mem_of_length_pos busy
    obtain ⟨later, isLater, crashed, ended⟩ := fair.ended_of_running runs
    have change := step_change_after (create name workers queue) acts later
    refine ⟨later + 1, by omega, ?_⟩
    have sameWorkers := change.fixed.2.1
    have member := change.mem_running_of_ended ended
    have shorter := change.running_length_of_ended ended
    have positive := List.length_pos_of_mem member
    have := within later
    omega

/-- A job that waited for ever could be started whenever a worker is idle, so that it
would have been started. -/
theorem Fair.started_of_waiting (fair : Fair (create name workers queue) acts)
    (waits : job ∈ ((create name workers queue).after acts moment).1.pool.waiting) :
    ∃ later ≥ moment, .started job ∈ (create name workers queue).eventsAt acts later := by
  by_contra never
  have still {later : Nat} (isLater : moment ≤ later) :
      job ∈ ((create name workers queue).after acts later).1.pool.waiting := by
    rcases lasts_or_told _ acts (fun change => change.waits_or_starts) isLater waits with
      still | ⟨time, since, event, member, starts⟩
    · exact still
    · obtain rfl := PoolEvent.starts_iff.mp starts
      exact absurd ⟨time, since, member⟩ never
  have able (since : Nat) : ∃ later ≥ since,
      (((create name workers queue).after acts later).1.pool.start? job).isSome = true := by
    obtain ⟨later, isLater, idle⟩ := fair.idle_again (max since moment)
    exact ⟨later, by omega, WorkerPool.start?_isSome_iff.mpr ⟨still (by omega), idle⟩⟩
  obtain ⟨later, isLater, starts, ready⟩ := fair.starts job moment able
  refine never ⟨later, isLater, ?_⟩
  rw [eventsAt, starts, step_start ready]
  exact List.mem_singleton_self _

end Progress

/-! ### Going on fairly -/

section Rest

variable {session : PoolSession} {acts : List PoolAct}

/-- A job that is let end is in flight no longer. -/
theorem inFlight_finish {job : Nat} (runs : job ∈ session.pool.running) (crashed : Bool) :
    (session.step (.finish job crashed)).1.pool.inFlight < session.pool.inFlight := by
  have shorter := List.length_erase_of_mem runs
  have positive := List.length_pos_of_mem runs
  simp only [step_finish runs, WorkerPool.inFlight, WorkerPool.finish_waiting,
    WorkerPool.finish_running]
  omega

/-- While jobs are in flight, at most two acts leave fewer of them. -/
theorem exists_round (staffed : 0 < session.pool.workers)
    (busy : session.pool.inFlight ≠ 0) :
    ∃ round, (session.run round).1.pool.inFlight < session.pool.inFlight := by
  cases running : session.pool.running with
  | cons job others =>
      refine ⟨[.finish job false], ?_⟩
      exact inFlight_finish (by simp [running]) false
  | nil =>
      -- Nobody runs, so some job waits and a worker is idle.
      cases waiting : session.pool.waiting with
      | nil => simp [WorkerPool.inFlight, running, waiting] at busy
      | cons job others =>
          have taken := WorkerPool.start?_eq_some_iff.mpr
            ⟨waiting ▸ List.mem_cons_self, running ▸ staffed, rfl⟩
          refine ⟨[.start job, .finish job false], ?_⟩
          simp [run, step, taken, running, waiting, WorkerPool.inFlight]

theorem exists_settled (name : String) (workers queue : Nat) (acts : List PoolAct) :
    ∃ later, ((create name workers queue).run (acts ++ later)).1.pool.inFlight = 0 := by
  generalize measure : ((create name workers queue).run acts).1.pool.inFlight = count
  induction count using Nat.strongRecOn generalizing acts with
  | _ count ih =>
      by_cases rest : ((create name workers queue).run acts).1.pool.inFlight = 0
      · exact ⟨[], by rwa [List.append_nil]⟩
      · obtain ⟨round, fewer⟩ := exists_round (run_staffed acts name workers queue) rest
        have split := congrArg Prod.fst (run_append (create name workers queue) acts round)
        rw [measure] at fewer
        obtain ⟨later, settled⟩ := ih _ fewer (acts ++ round) (by rw [split])
        exact ⟨round ++ later, by rwa [← List.append_assoc]⟩

/-- The acts, and then nothing but the end of a job that does not run. -/
def prolonged (acts : List PoolAct) (moment : Nat) : PoolAct :=
  acts.getD moment (.finish 0 false)

theorem range_prolonged (acts later : List PoolAct) :
    (List.range acts.length).map (prolonged (acts ++ later)) = acts :=
  map_getD_range_append acts later _

theorem jobs_of_rest (rest : session.pool.inFlight = 0) :
    session.pool.waiting = [] ∧ session.pool.running = [] := by
  simpa [WorkerPool.inFlight] using rest

/-- A pool at rest stays at rest. -/
theorem rest_prolonged (rest : (session.run acts).1.pool.inFlight = 0) {moment : Nat}
    (beyond : acts.length ≤ moment) :
    (session.after (prolonged acts) moment).1.pool.inFlight = 0 := by
  induction beyond with
  | refl =>
      have same := range_prolonged acts []
      rw [List.append_nil] at same
      rwa [after, same]
  | @step moment beyond ih =>
      have idle : prolonged acts moment = .finish 0 false := by
        simp [prolonged, List.getElem?_eq_none beyond]
      rw [after_succ, idle]
      simpa [step, (jobs_of_rest ih).2] using ih

/-- A schedule that comes to rest is fair. -/
theorem fair_prolonged (rest : (session.run acts).1.pool.inFlight = 0) :
    Fair session (prolonged acts) where
  ends moment job runs := by
    have isLater : moment ≤ moment + acts.length := Nat.le_add_right _ _
    rcases lasts_or_told session _ (fun change => change.runs_or_ends) isLater runs with
      still | ⟨time, since, event, member, ends⟩
    · have settled := rest_prolonged rest (Nat.le_add_left acts.length moment)
      simp [(jobs_of_rest settled).2] at still
    · obtain ⟨crashed, rfl⟩ := PoolEvent.ends_iff.mp ends
      exact ⟨time, since, crashed, act_of_ended member⟩
  starts job moment able := by
    -- At rest no job waits, so none can be started again and again.
    obtain ⟨later, isLater, ready⟩ := able acts.length
    have waits := (WorkerPool.start?_isSome_iff.mp ready).1
    simp [(jobs_of_rest (rest_prolonged rest isLater)).1] at waits

/-- Whatever has been done with a pool can go on fairly. -/
theorem exists_fair (name : String) (workers queue : Nat) (acts : List PoolAct) :
    ∃ schedule, (List.range acts.length).map schedule = acts ∧
      Fair (create name workers queue) schedule := by
  obtain ⟨later, rest⟩ := exists_settled name workers queue acts
  exact ⟨prolonged (acts ++ later), range_prolonged acts later, fair_prolonged rest⟩

end Rest

end PoolSession

end UnattendedRefresh
