import UnattendedRefresh.Proofs.Pool.Fairness

/-!
# Accepted jobs complete

No accepted job is lost, none runs twice, and a shutdown returns to a pool in
which nothing is left to do. In a fair schedule every accepted job is started and
ends, well or by a crash, and every shutdown comes to a drained pool.
-/

namespace UnattendedRefresh

namespace PoolSession

section Step

variable {session after : PoolSession} {events : List PoolEvent}

/-- A pool is closed by shutdowns alone, and stays closed. -/
theorem Change.isClosed (change : Change session after events) :
    after.pool.isClosed = true ↔
      session.pool.isClosed = true ∨ ∃ call, .closed call ∈ events := by
  cases change <;> simp [WorkerPool.finish]

theorem Change.drained_of_returned {call : Nat} (change : Change session after events)
    (returned : .returned call ∈ events) : session.pool.isDrained = true := by
  cases change with
  | returned _ drained => exact drained
  | _ => simp at returned

/-- A closed pool gets no more jobs. -/
theorem Change.jobs_of_closed (change : Change session after events)
    (closed : session.pool.isClosed = true) {job : Nat}
    (present : job ∈ after.pool.waiting ∨ job ∈ after.pool.running) :
    job ∈ session.pool.waiting ∨ job ∈ session.pool.running := by
  cases change with
  | accepted isOpen => simp [closed] at isOpen
  | started other member idle =>
      rcases present with waits | runs
      · exact Or.inl (List.mem_of_mem_erase waits)
      · rcases List.mem_append.mp runs with before | now
        · exact Or.inr before
        · exact Or.inl (List.mem_singleton.mp now ▸ member)
  | ended other crashed member => exact present.imp_right List.mem_of_mem_erase
  | _ => exact present

theorem step_awaitDrain {call : Nat} (awaits : call ∈ session.shutdowns)
    (drained : session.pool.isDrained = true) :
    session.step (.awaitDrain call) =
      ({ session with shutdowns := session.shutdowns.erase call }, [.returned call]) :=
  if_pos ⟨awaits, drained⟩

/-- A shutdown that has begun waits until it returns. -/
theorem Change.awaits_or_returned {call : Nat} (change : Change session after events)
    (begun : call ∈ session.shutdowns ∨ .closed call ∈ events) :
    call ∈ after.shutdowns ∨ .returned call ∈ events := by
  cases change with
  | closed => simpa using begun
  | returned other drained =>
      by_cases same : call = other
      · simp [same]
      · simpa [List.mem_erase_of_ne same, same] using begun
  | _ => simpa using begun

end Step

section Run

variable (session : PoolSession) (acts : List PoolAct)

theorem run_isClosed :
    (session.run acts).1.pool.isClosed = true ↔
      session.pool.isClosed = true ∨ ∃ call, .closed call ∈ (session.run acts).2 := by
  induction acts generalizing session with
  | nil => simp [run]
  | cons act acts ih => simp [run, ih, (step_change session act).isClosed, exists_or, or_assoc]

theorem run_awaits_or_returned {call : Nat}
    (begun : call ∈ session.shutdowns ∨ .closed call ∈ (session.run acts).2) :
    call ∈ (session.run acts).1.shutdowns ∨ .returned call ∈ (session.run acts).2 := by
  induction acts generalizing session with
  | nil => simpa [run] using begun
  | cons act acts ih =>
      have now (first : call ∈ session.shutdowns ∨ .closed call ∈ (session.step act).2) :=
        (step_change session act).awaits_or_returned first
      have later := ih (session.step act).1
      simp only [run, List.mem_append] at begun ⊢
      grind

end Run

/-- What holds between the jobs of a pool and its record, whatever was done with
the pool. -/
structure Orderly (name : String) (session : PoolSession) (events : List PoolEvent) :
    Prop where
  /-- An accepted job waits, or runs, or has ended; it was started at most once and
  has ended at most once. -/
  accounted : ∀ job, .accepted job ∈ events →
    (job ∈ session.pool.waiting ∧ job ∉ session.pool.running ∧
      events.countP (PoolEvent.starts job) = 0 ∧ events.countP (PoolEvent.ends job) = 0) ∨
    (job ∉ session.pool.waiting ∧ job ∈ session.pool.running ∧
      events.countP (PoolEvent.starts job) = 1 ∧ events.countP (PoolEvent.ends job) = 0) ∨
    (job ∉ session.pool.waiting ∧ job ∉ session.pool.running ∧
      events.countP (PoolEvent.starts job) = 1 ∧ events.countP (PoolEvent.ends job) = 1)
  /-- A refused job neither waits nor runs nor ever ran. -/
  refused_idle : ∀ job fault, .refused job fault ∈ events →
    job ∉ session.pool.waiting ∧ job ∉ session.pool.running ∧
      events.countP (PoolEvent.starts job) = 0 ∧ events.countP (PoolEvent.ends job) = 0
  /-- A shutdown returns when every accepted job has ended. -/
  returned_drained : ∀ act call, .returned call ∈ (session.step act).2 →
    session.pool.inFlight = 0 ∧
      ∀ job, .accepted job ∈ events →
        events.countP (PoolEvent.starts job) = 1 ∧ events.countP (PoolEvent.ends job) = 1
  /-- Once a shutdown has closed the pool, a submission only uses up its number. -/
  closed_refuses : ∀ call, .closed call ∈ events →
    session.step .submit =
      ({ session with next := session.next + 1 }, [.refused session.next (.closed name)])

theorem countP_accepts_pos {job : Nat} {events : List PoolEvent} :
    0 < events.countP (PoolEvent.accepts job) ↔ .accepted job ∈ events := by
  rw [List.countP_pos_iff]
  constructor
  · rintro ⟨event, member, accepts⟩
    cases event <;> simp_all [PoolEvent.accepts]
  · intro member
    exact ⟨_, member, by simp [PoolEvent.accepts]⟩

theorem countP_refuses_pos {job : Nat} {fault : PoolFault} {events : List PoolEvent}
    (member : .refused job fault ∈ events) :
    0 < events.countP (PoolEvent.refuses job) :=
  List.countP_pos_iff.mpr ⟨_, member, by simp [PoolEvent.refuses]⟩

theorem countP_starts_pos {job : Nat} {events : List PoolEvent}
    (member : .started job ∈ events) : 0 < events.countP (PoolEvent.starts job) :=
  List.countP_pos_iff.mpr ⟨_, member, by simp [PoolEvent.starts]⟩

theorem countP_ends_pos {job : Nat} {crashed : Bool} {events : List PoolEvent}
    (member : .ended job crashed ∈ events) : 0 < events.countP (PoolEvent.ends job) :=
  List.countP_pos_iff.mpr ⟨_, member, by simp [PoolEvent.ends]⟩

namespace Balanced

variable {session : PoolSession} {events : List PoolEvent} {job : Nat}

/-- A job is accepted at most once, and it neither starts more often than it was accepted
nor ends more often than it has started. -/
theorem counts_le (balanced : Balanced session events) (job : Nat) :
    events.countP (PoolEvent.ends job) ≤ events.countP (PoolEvent.starts job) ∧
      events.countP (PoolEvent.starts job) ≤ events.countP (PoolEvent.accepts job) ∧
      events.countP (PoolEvent.accepts job) + events.countP (PoolEvent.refuses job) ≤ 1 := by
  have waits := balanced.accepted_eq job
  have runs := balanced.started_eq job
  have once := balanced.answered_once job
  omega

/-- Those jobs wait that were accepted and have not started. -/
theorem mem_waiting_iff (balanced : Balanced session events) :
    job ∈ session.pool.waiting ↔
      .accepted job ∈ events ∧ events.countP (PoolEvent.starts job) = 0 := by
  have waits := balanced.accepted_eq job
  have once := balanced.answered_once job
  rw [← List.count_pos_iff, ← countP_accepts_pos]
  omega

/-- Those jobs run that have started and have not ended. -/
theorem mem_running_iff (balanced : Balanced session events) :
    job ∈ session.pool.running ↔
      events.countP (PoolEvent.starts job) = 1 ∧ events.countP (PoolEvent.ends job) = 0 := by
  have runs := balanced.started_eq job
  have counts := balanced.counts_le job
  rw [← List.count_pos_iff]
  omega

theorem orderly {name : String} (balanced : Balanced session events)
    (sameName : session.pool.name = name)
    (closing : ∀ call, .closed call ∈ events → session.pool.isClosed = true) :
    Orderly name session events := by
  refine ⟨fun job accepted => ?_, fun job fault refused => ?_, fun act call returned => ?_,
    fun call closed => ?_⟩
  · have taken := countP_accepts_pos.mpr accepted
    have counts := balanced.counts_le job
    simp only [balanced.mem_waiting_iff, balanced.mem_running_iff, accepted, true_and]
    omega
  · have denied := countP_refuses_pos refused
    have counts := balanced.counts_le job
    simp only [balanced.mem_waiting_iff, balanced.mem_running_iff, ← countP_accepts_pos]
    omega
  · obtain ⟨-, noneWaits, noneRuns⟩ := WorkerPool.isDrained_iff.mp
      ((step_change session act).drained_of_returned returned)
    refine ⟨by simp [WorkerPool.inFlight, noneWaits, noneRuns], fun job accepted => ?_⟩
    have counts := balanced.counts_le job
    have started : ¬ events.countP (PoolEvent.starts job) = 0 := fun notYet => by
      have waits := balanced.mem_waiting_iff.mpr ⟨accepted, notYet⟩
      simp [noneWaits] at waits
    have idle : job ∉ session.pool.running := by simp [noneRuns]
    rw [balanced.mem_running_iff] at idle
    omega
  · simp [step, WorkerPool.submit_of_closed (closing call closed), sameName]

end Balanced

theorem orderly_run (name : String) (workers queue : Nat) (acts : List PoolAct) :
    Orderly name ((create name workers queue).run acts).1
      ((create name workers queue).run acts).2 :=
  (balanced_run name workers queue acts).orderly (run_fixed _ acts).1
    fun call closed => (run_isClosed _ acts).mpr (Or.inr ⟨call, closed⟩)

section Completion

variable {name : String} {workers queue : Nat} {acts : Nat → PoolAct}

theorem balanced_after (name : String) (workers queue : Nat) (acts : Nat → PoolAct)
    (moment : Nat) :
    Balanced ((create name workers queue).after acts moment).1
      ((create name workers queue).after acts moment).2 :=
  balanced_run name workers queue _

theorem Fair.eventually_started (fair : Fair (create name workers queue) acts)
    {moment job : Nat}
    (accepted : .accepted job ∈ ((create name workers queue).after acts moment).2) :
    ∃ later ≥ moment,
      0 < ((create name workers queue).after acts later).2.countP (PoolEvent.starts job) := by
  have balanced := balanced_after name workers queue acts moment
  rcases Nat.eq_zero_or_pos
      (((create name workers queue).after acts moment).2.countP (PoolEvent.starts job))
    with notYet | already
  · have waits := balanced.mem_waiting_iff.mpr ⟨accepted, notYet⟩
    obtain ⟨later, isLater, started⟩ := fair.started_of_waiting waits
    exact ⟨later + 1, by omega,
      countP_starts_pos (mem_after_of_mem_eventsAt _ _ started)⟩
  · exact ⟨moment, Nat.le_refl _, already⟩

theorem Fair.eventually_ended (fair : Fair (create name workers queue) acts)
    {moment job : Nat}
    (started : 0 <
      ((create name workers queue).after acts moment).2.countP (PoolEvent.starts job)) :
    ∃ later ≥ moment,
      0 < ((create name workers queue).after acts later).2.countP (PoolEvent.ends job) := by
  have balanced := balanced_after name workers queue acts moment
  have counts := balanced.counts_le job
  rcases Nat.eq_zero_or_pos
      (((create name workers queue).after acts moment).2.countP (PoolEvent.ends job))
    with notYet | already
  · have runs := balanced.mem_running_iff.mpr ⟨by omega, notYet⟩
    obtain ⟨later, isLater, crashed, ended⟩ := fair.ended_of_running runs
    exact ⟨later + 1, by omega,
      countP_ends_pos (mem_after_of_mem_eventsAt _ _ ended)⟩
  · exact ⟨moment, Nat.le_refl _, already⟩

theorem Fair.completes (fair : Fair (create name workers queue) acts) {moment job : Nat}
    (accepted : .accepted job ∈ ((create name workers queue).after acts moment).2) :
    ∃ settled, ∀ later ≥ settled,
      ((create name workers queue).after acts later).2.countP (PoolEvent.starts job) = 1 ∧
        ((create name workers queue).after acts later).2.countP (PoolEvent.ends job) = 1 := by
  obtain ⟨startedBy, _, started⟩ := fair.eventually_started accepted
  obtain ⟨endedBy, _, ended⟩ := fair.eventually_ended started
  refine ⟨endedBy, fun later isLater => ?_⟩
  have counts := (balanced_after name workers queue acts later).counts_le job
  have grown := countP_after_le (create name workers queue) acts (PoolEvent.ends job) isLater
  omega

/-- Finitely many accepted jobs are all over at some time. -/
theorem Fair.all_complete (fair : Fair (create name workers queue) acts) {moment : Nat}
    (jobs : List Nat)
    (accepted : ∀ job ∈ jobs, .accepted job ∈ ((create name workers queue).after acts moment).2) :
    ∃ settled, ∀ later ≥ settled, ∀ job ∈ jobs,
      ((create name workers queue).after acts later).2.countP (PoolEvent.starts job) = 1 ∧
        ((create name workers queue).after acts later).2.countP (PoolEvent.ends job) = 1 := by
  induction jobs with
  | nil => exact ⟨0, by simp⟩
  | cons job jobs ih =>
      obtain ⟨first, one⟩ := fair.completes (accepted job List.mem_cons_self)
      obtain ⟨second, others⟩ := ih fun other member =>
        accepted other (List.mem_cons_of_mem _ member)
      refine ⟨max first second, fun later isLater => List.forall_mem_cons.mpr ⟨?_, ?_⟩⟩
      · exact one later (by omega)
      · exact others later (by omega)

/-- The jobs of a closed pool are among those it had when it was closed. -/
theorem jobs_after_closed {session : PoolSession} {moment later : Nat}
    (closed : (session.after acts moment).1.pool.isClosed = true) (isLater : moment ≤ later) :
    (session.after acts later).1.pool.isClosed = true ∧
      ∀ job, job ∈ (session.after acts later).1.pool.waiting ∨
          job ∈ (session.after acts later).1.pool.running →
        job ∈ (session.after acts moment).1.pool.waiting ∨
          job ∈ (session.after acts moment).1.pool.running := by
  induction isLater with
  | refl => exact ⟨closed, fun _ present => present⟩
  | @step later isLater ih =>
      have change := step_change_after session acts later
      exact ⟨change.isClosed.mpr (Or.inl ih.1),
        fun job present => ih.2 job (change.jobs_of_closed ih.1 present)⟩

/-- A closed pool comes to be drained, and stays so. -/
theorem Fair.drained_of_closed (fair : Fair (create name workers queue) acts) {moment : Nat}
    (closed : ((create name workers queue).after acts moment).1.pool.isClosed = true) :
    ∃ settled, ∀ later ≥ settled,
      ((create name workers queue).after acts later).1.pool.isDrained = true := by
  have balanced := balanced_after name workers queue acts moment
  have accepted : ∀ job ∈ ((create name workers queue).after acts moment).1.pool.waiting ++
      ((create name workers queue).after acts moment).1.pool.running,
      .accepted job ∈ ((create name workers queue).after acts moment).2 := by
    intro job present
    rcases List.mem_append.mp present with waits | runs
    · exact (balanced.mem_waiting_iff.mp waits).1
    · have started := (balanced.mem_running_iff.mp runs).1
      have counts := balanced.counts_le job
      rw [← countP_accepts_pos]
      omega
  -- No job comes after the closing, so those that were there then are all there are.
  obtain ⟨settled, complete⟩ := fair.all_complete _ accepted
  refine ⟨max settled moment, fun later isLater => ?_⟩
  obtain ⟨still, among⟩ := jobs_after_closed closed (show moment ≤ later by omega)
  have books := balanced_after name workers queue acts later
  have ended {job : Nat}
      (present : job ∈ ((create name workers queue).after acts later).1.pool.waiting ∨
        job ∈ ((create name workers queue).after acts later).1.pool.running) :=
    complete later (by omega) job (List.mem_append.mpr (among job present))
  refine WorkerPool.isDrained_iff.mpr ⟨still, ?_, ?_⟩
  · refine List.eq_nil_iff_forall_not_mem.mpr fun job waits => ?_
    have notYet := (books.mem_waiting_iff.mp waits).2
    have started := (ended (Or.inl waits)).1
    omega
  · refine List.eq_nil_iff_forall_not_mem.mpr fun job runs => ?_
    have notYet := (books.mem_running_iff.mp runs).2
    have finished := (ended (Or.inr runs)).2
    omega

/-- A shutdown has returned at last, or does as soon as it looks. -/
theorem Fair.shutdown_returns (fair : Fair (create name workers queue) acts)
    {moment call : Nat}
    (begun : .closed call ∈ ((create name workers queue).after acts moment).2) :
    ∃ settled, ∀ later ≥ settled,
      .returned call ∈ ((create name workers queue).after acts later).2 ∨
        .returned call ∈
          (((create name workers queue).after acts later).1.step (.awaitDrain call)).2 := by
  have closed := (run_isClosed (create name workers queue) _).mpr (Or.inr ⟨call, begun⟩)
  obtain ⟨settled, drained⟩ := fair.drained_of_closed closed
  refine ⟨max settled moment, fun later isLater => ?_⟩
  have known : .closed call ∈ ((create name workers queue).after acts later).2 :=
    after_subset _ acts (show moment ≤ later by omega) begun
  rcases run_awaits_or_returned (create name workers queue) _ (Or.inr known) with
    awaits | returned
  · have returns := congrArg Prod.snd (step_awaitDrain awaits (drained later (by omega)))
    exact Or.inr (returns ▸ List.mem_singleton_self _)
  · exact Or.inl returned

end Completion

/-- After every run the jobs of a pool are in order. Every run can go on fairly, and in
a fair schedule each accepted job is started once and ends once, and each shutdown
returns once it looks. -/
theorem accepted_jobs_complete (name : String) (workers queue : Nat) :
    (∀ acts : List PoolAct,
      Orderly name ((create name workers queue).run acts).1
        ((create name workers queue).run acts).2) ∧
    (∀ acts : List PoolAct, ∃ schedule, (List.range acts.length).map schedule = acts ∧
      Fair (create name workers queue) schedule) ∧
    ∀ schedule : Nat → PoolAct, Fair (create name workers queue) schedule → ∀ moment,
      (∀ job, .accepted job ∈ ((create name workers queue).after schedule moment).2 →
        ∃ settled, ∀ later ≥ settled,
          ((create name workers queue).after schedule later).2.countP
              (PoolEvent.starts job) = 1 ∧
            ((create name workers queue).after schedule later).2.countP
              (PoolEvent.ends job) = 1) ∧
      ∀ call, .closed call ∈ ((create name workers queue).after schedule moment).2 →
        ∃ settled, ∀ later ≥ settled,
          .returned call ∈ ((create name workers queue).after schedule later).2 ∨
            .returned call ∈
              (((create name workers queue).after schedule later).1.step (.awaitDrain call)).2 :=
  ⟨orderly_run name workers queue, exists_fair name workers queue, fun _ fair _ =>
    ⟨fun _ accepted => fair.completes accepted, fun _ begun => fair.shutdown_returns begun⟩⟩

/-- Two jobs for one worker, and the first of them crashes: the second is started all the
same in some schedule that begins so, and ends. -/
theorem accepted_jobs_complete_past_crash :
    ∃ schedule,
      (List.range 4).map schedule = [.submit, .submit, .start 0, .finish 0 true] ∧
      ∃ settled, ∀ later ≥ settled,
        ((create "pass" 1 1).after schedule later).2.countP (PoolEvent.starts 1) = 1 ∧
          ((create "pass" 1 1).after schedule later).2.countP (PoolEvent.ends 1) = 1 := by
  obtain ⟨-, goesOn, completes⟩ := accepted_jobs_complete "pass" 1 1
  obtain ⟨schedule, begins, fair⟩ := goesOn [.submit, .submit, .start 0, .finish 0 true]
  refine ⟨schedule, begins, (completes schedule fair 4).1 1 ?_⟩
  have same : (create "pass" 1 1).after schedule 4 =
      (create "pass" 1 1).run [.submit, .submit, .start 0, .finish 0 true] :=
    congrArg _ begins
  rw [same]
  decide

end PoolSession

end UnattendedRefresh
