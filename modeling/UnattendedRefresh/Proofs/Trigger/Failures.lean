import UnattendedRefresh.Proofs.Procedure.Treatment
import UnattendedRefresh.Proofs.Trigger.Isolation
import UnattendedRefresh.Proofs.Trigger.Settling

/-!
# Failures stay where they are

What goes wrong for one user concerns nobody else. A task that ends, in whatever way,
leaves the other tasks where they stand and gives back its slot and its worker; a pass
ends by its own answers or by its own crash; and the refresh of a candidate calls for
what its own treatment makes it call for, whatever becomes of the other candidates.
-/

namespace UnattendedRefresh

open Function Procedure

namespace Record

/-- The task is treated so: it was answered as the treatment says, and if it crashed, it
did so at a call that the treatment does not answer. -/
structure Treated (record : Record) (treatment : Treatment) (number : Nat) : Prop where
  given : treatment.Gives [] (record.answers number)
  crashed : none ∈ record.endings number → ∃ question,
    record.calls number = externals (record.asked number) ++ [question] ∧
      treatment (record.answers number) question = none

/-- How a pass ended: by its own answers, which decide its outcome and whom it has
submitted, or because it was itself broken off. -/
inductive PassEnding (record : Record) (moves : List Move) (pass : Nat) (minute : MinuteOfDay) :
    Option Outcome → Prop where
  | conducted {outcome : PassOutcome} {snapshot : Settings} {replies : List Reply}
      (answers_eq : record.answers pass = ⟨.snapshot, snapshot⟩ :: replies)
      (conduct : MinutePass.Conduct minute snapshot outcome replies) :
      PassEnding record moves pass minute (some (.pass outcome))
  | broken (crash : .crash pass ∈ moves) : PassEnding record moves pass minute none

end Record

namespace Trigger

variable {gate : Gate} {trigger after : Trigger} {news : List Effect} {number : Nat}
  {ending : Option Outcome}

/-! ### One task ends -/

/-- The end of a task leaves the other tasks as they are, and of the pools it changes
nothing but that a worker of one of them is free. -/
structure EndsAlone (trigger after : Trigger) (number : Nat) : Prop where
  gone : after.task? number = none
  others : ∀ other, other ≠ number → after.task? other = trigger.task? other
  pools : ∀ lane, after.pool lane = trigger.pool lane ∨
    after.pool lane = (trigger.pool lane).finish number
  settings_eq : after.settings = trigger.settings

theorem Goes.endsAlone {task : Task} (goes : trigger.Goes task) :
    EndsAlone trigger (trigger.removeTask task) task.number where
  gone := by rw [task?_removeTask goes.found, update_self]
  others other different := by rw [task?_removeTask goes.found, update_of_ne different]
  pools lane := by
    rw [pool_removeTask]
    cases own : task.lane with
    | none => exact Or.inl rfl
    | some taker =>
        by_cases same : lane = taker
        · subst same
          exact Or.inr (by simp)
        · exact Or.inl (by simp [same])
  settings_eq := removeTask_settings trigger task

theorem Deed.endsAlone {effects : List Effect} (deed : Deed trigger after effects)
    (told : .ended number ending ∈ effects) : EndsAlone trigger after number := by
  cases deed with
  | ended goes stands =>
      obtain ⟨rfl, -⟩ := Effect.ended.inj (List.mem_singleton.mp told)
      exact goes.endsAlone
  | crashed goes noted =>
      rcases List.mem_append.mp told with note | last
      · have same := noted _ note
        simp at same
      · obtain ⟨rfl, -⟩ := Effect.ended.inj (List.mem_singleton.mp last)
        exact goes.endsAlone
  | _ => simp at told

theorem endsAlone_of_ended {move : Move}
    (told : .ended number ending ∈ (trigger.step move).2) :
    EndsAlone trigger (trigger.step move).1 number := by
  rcases trigger.replaced_or_deed move with ⟨settings, rfl⟩ | deed
  · simp [step] at told
  · exact deed.endsAlone told

/-! ### Only a crash breaks a task off -/

theorem task_of_withTask {act : Task → Trigger × List Effect} {effect : Effect}
    (told : effect ∈ (trigger.withTask number act).2) :
    ∃ task, task.number = number ∧ effect ∈ (act task).2 := by
  unfold withTask at told
  split at told
  next task found =>
    split at told
    next => exact ⟨task, number_of_task? found, told⟩
    next => simp at told
  next => simp at told

theorem unbroken_of_advance {task : Task} : .ended number none ∉ (trigger.advanceTask task).2 := by
  intro told
  unfold advanceTask at told
  split at told
  next => simp at told
  next => simp at told
  next question resume _ =>
    cases question with
    | enqueue candidate settings =>
        simp only [answerInternally] at told
        split at told <;> simp [admission] at told
    | _ => simp [answerInternally] at told

theorem crash_of_broken {move : Move} (told : .ended number none ∈ (trigger.step move).2) :
    move = .crash number := by
  cases move with
  | crash other =>
      obtain ⟨task, rfl, crashed⟩ := task_of_withTask told
      unfold crashTask at crashed
      rcases List.mem_append.mp crashed with note | last
      · split at note <;> simp at note
      · simp only [List.mem_singleton, Effect.ended.injEq, and_true] at last
        rw [last]
  | advance other =>
      obtain ⟨task, rfl, advanced⟩ := task_of_withTask told
      exact absurd advanced unbroken_of_advance
  | call other =>
      obtain ⟨task, rfl, called⟩ := task_of_withTask told
      unfold callTask at called
      split at called
      next => split at called <;> simp at called
      next => simp at called
  | answer other reply =>
      obtain ⟨task, rfl, answered⟩ := task_of_withTask told
      unfold answerTask at answered
      split at answered
      next => split at answered <;> simp at answered
      next => simp at answered
  | triggerPass minute =>
      simp only [step, submitMove] at told
      split at told <;> simp [admission] at told
  | triggerForced userId =>
      simp only [step, submitMove] at told
      split at told <;> simp [admission] at told
  | start lane job =>
      simp only [step, startMove] at told
      split at told <;> simp at told
  | advanceShutdown call =>
      simp only [step, advanceShutdown] at told
      split at told
      next => split at told <;> simp at told
      next => split at told <;> simp at told
      next => simp at told
  | replaceSettings settings => simp [step] at told
  | runPass minute => simp [step, beginMove] at told
  | runForced userId => simp [step, beginMove] at told
  | shutdown => simp [step] at told

/-! ### Passes and candidates -/

section Runs

variable {settings settings' : Settings} {sizes sizes' : PoolSizes} {moves moves' : List Move}
  {pass job job' : Nat} {minute : MinuteOfDay} {candidate : Candidate} {snapshot : Settings}
  {treatment : Treatment}

theorem passEnding_of_mem
    (begun : Record.errands ((create gate settings sizes).run moves).2 pass = [.pass minute])
    (ended : ending ∈ Record.endings ((create gate settings sizes).run moves).2 pass) :
    Record.PassEnding ((create gate settings sizes).run moves).2 moves pass minute ending := by
  cases ending with
  | none =>
      have told := Record.mem_endings_iff.mp ended
      obtain ⟨earlier, move, later, rfl, now⟩ := exists_step_of_mem_run told
      exact .broken (by simp [crash_of_broken now])
  | some outcome =>
      have life := (chronicle_run gate settings sizes moves).lives pass
      obtain ⟨errand, same, -, course⟩ := life.of_outcome ended
      obtain rfl := List.singleton_injective (begun.symm.trans same)
      obtain ⟨told, rfl, within⟩ := Errand.pass_course_done course
      have opening := within
      rw [MinutePass.run, bind_eq, question_bind, Course.ask_to_done] at opening
      obtain ⟨snapshot, replies, answers_eq, -⟩ := opening
      exact .conducted answers_eq (MinutePass.run_conduct (answers_eq ▸ within))

/-- What the refresh of a candidate calls for is what its treatment makes it call for, as
far as it has come, and all of that once it has ended. -/
theorem calls_of_treated
    (begun : Record.errands ((create gate settings sizes).run moves).2 job =
      [.scheduled candidate snapshot])
    (treated : Record.Treated ((create gate settings sizes).run moves).2 treatment job) :
    let record : Record := ((create gate settings sizes).run moves).2
    let whole := asksUnder treatment [] (RefreshJob.scheduled gate candidate snapshot)
    record.calls job <+: whole ∧ (record.endings job ≠ [] → record.calls job = whole) := by
  intro record whole
  obtain ⟨questions, asks, calls_eq, all⟩ := calls_asks gate settings sizes moves begun
  have within :
      Asks (RefreshJob.scheduled gate candidate snapshot) (record.answers job) questions :=
    asks.of_bind fun _ => trivial
  have only := (RefreshJob.scheduled_asksOnly gate candidate snapshot).asks within
  rw [externals_of_isOfRefresh only] at calls_eq
  have calls_eq : record.calls job = questions := calls_eq
  refine ⟨calls_eq ▸ within.under treated.given, fun ended => ?_⟩
  obtain ⟨ending, member⟩ := List.exists_mem_of_ne_nil _ ended
  cases ending with
  | some outcome =>
      have life := (chronicle_run gate settings sizes moves).lives job
      obtain ⟨errand, same, -, course⟩ := life.of_outcome member
      obtain rfl := List.singleton_injective (begun.symm.trans same)
      obtain ⟨result, toEnd⟩ := course.of_bind fun _ => trivial
      have asked := toEnd.under treated.given
      rw [calls_eq, all outcome member]
      exact asked.symm
  | none =>
      obtain ⟨question, called, broken⟩ := treated.crashed member
      have answered : externals (record.asked job) = record.asked job := by
        apply externals_of_isOfRefresh
        intro question asked
        exact only question (within.answered.subset asked)
      rw [answered] at called
      rw [← calls_eq, called] at within
      rw [called]
      exact (within.under_broken treated.given (by simpa using broken)).symm

/-- Two refreshes of a candidate that are treated alike, in whatever runs they are. -/
theorem calls_alike
    (begun : Record.errands ((create gate settings sizes).run moves).2 job =
      [.scheduled candidate snapshot])
    (begun' : Record.errands ((create gate settings' sizes').run moves').2 job' =
      [.scheduled candidate snapshot])
    (treated : Record.Treated ((create gate settings sizes).run moves).2 treatment job)
    (treated' : Record.Treated ((create gate settings' sizes').run moves').2 treatment job')
    (ended : Record.endings ((create gate settings sizes).run moves).2 job ≠ [])
    (ended' : Record.endings ((create gate settings' sizes').run moves').2 job' ≠ []) :
    Record.calls ((create gate settings sizes).run moves).2 job =
      Record.calls ((create gate settings' sizes').run moves').2 job' := by
  have here := (calls_of_treated begun treated).2 ended
  have there := (calls_of_treated begun' treated').2 ended'
  exact here.trans there.symm

end Runs

/-- What every run keeps apart, however it fails in places. -/
structure Contained (gate : Gate) (settings : Settings) (sizes : PoolSizes)
    (moves : List Move) : Prop where
  /-- The slots of a pool are taken by accepted jobs that have not ended, and its workers
  by some of these. -/
  slots : ∀ lane,
    ((((create gate settings sizes).run moves).1.pool lane).waiting ++
        (((create gate settings sizes).run moves).1.pool lane).running).Perm
      (Record.unended ((create gate settings sizes).run moves).2 lane)
  workers : ∀ lane, (((create gate settings sizes).run moves).1.pool lane).running.length ≤
    (((create gate settings sizes).run moves).1.pool lane).workers
  released : ∀ number, Record.endings ((create gate settings sizes).run moves).2 number ≠ [] →
    ∀ lane, ¬ (((create gate settings sizes).run moves).1.pool lane).Holds number
  alone : ∀ move number ending,
    .ended number ending ∈ (((create gate settings sizes).run moves).1.step move).2 →
      EndsAlone ((create gate settings sizes).run moves).1
        (((create gate settings sizes).run moves).1.step move).1 number
  passes : ∀ pass minute,
    Record.errands ((create gate settings sizes).run moves).2 pass = [.pass minute] →
      ∀ ending ∈ Record.endings ((create gate settings sizes).run moves).2 pass,
        Record.PassEnding ((create gate settings sizes).run moves).2 moves pass minute ending
  /-- Every candidate that a pass was told is queued has a job. -/
  queued : ∀ pass candidate snapshot,
    ⟨.enqueue candidate snapshot, .ok ()⟩ ∈
      Record.answers ((create gate settings sizes).run moves).2 pass →
        ∃ job, Record.Queued ((create gate settings sizes).run moves).2 pass candidate snapshot job
  treated : ∀ job candidate snapshot treatment,
    Record.errands ((create gate settings sizes).run moves).2 job =
      [.scheduled candidate snapshot] →
    Record.Treated ((create gate settings sizes).run moves).2 treatment job →
      Record.calls ((create gate settings sizes).run moves).2 job <+:
        asksUnder treatment [] (RefreshJob.scheduled gate candidate snapshot)

theorem contained_run (gate : Gate) (settings : Settings) (sizes : PoolSizes)
    (moves : List Move) : Contained gate settings sizes moves where
  slots := (housed_run gate settings sizes moves).jobs_perm
  workers lane := (staffed_run gate settings sizes moves lane).2
  released number ended lane held := by
    have housed := housed_run gate settings sizes moves
    have job : number ∈ jobs _ lane := List.mem_append.mpr held
    have seated := (housed.jobs_iff number lane).mp job
    exact ended ((housed.seat_iff number lane).mp seated).2
  alone _ _ _ told := endsAlone_of_ended told
  passes _ _ begun _ ended := passEnding_of_mem begun ended
  queued pass candidate snapshot answered := by
    have sound := sound_create gate settings sizes
    exact exists_queued_of_answered sound (Record.mem_answers_iff.mp answered)
  treated _ _ _ _ begun treated := (calls_of_treated begun treated).1

section Schedules

variable {settings : Settings} {sizes : PoolSizes} {schedule : Nat → Move} {moment : Nat}

/-- The task has ended, once and for all, and no pool holds it any longer. -/
def Settled (gate : Gate) (settings : Settings) (sizes : PoolSizes) (schedule : Nat → Move)
    (number : Nat) : Prop :=
  ∃ settled, ∀ later ≥ settled,
    (Record.endings ((create gate settings sizes).evolve schedule later).2 number).length = 1 ∧
      ∀ lane, ¬ (((create gate settings sizes).evolve schedule later).1.pool lane).Holds number

theorem Fair.settled (fair : Fair (create gate settings sizes) schedule) {errand : Errand}
    (begun : .begun number errand ∈ ((create gate settings sizes).evolve schedule moment).2) :
    Settled gate settings sizes schedule number := by
  obtain ⟨settled, ended⟩ := fair.completes begun
  refine ⟨settled, fun later isLater => ⟨(ended later isLater).1, fun lane held => ?_⟩⟩
  exact (ended later isLater).2 lane (List.mem_append.mpr held)

/-- Every accepted candidate has a job, and the job runs to its end. -/
theorem Fair.candidate_settled (fair : Fair (create gate settings sizes) schedule) {pass : Nat}
    {candidate : Candidate} {snapshot : Settings}
    (queued : ⟨.enqueue candidate snapshot, .ok ()⟩ ∈
      Record.answers ((create gate settings sizes).evolve schedule moment).2 pass) :
    ∃ job, Record.Queued ((create gate settings sizes).evolve schedule moment).2 pass candidate
        snapshot job ∧ Settled gate settings sizes schedule job := by
  obtain ⟨job, told⟩ := (contained_run gate settings sizes _).queued pass candidate snapshot queued
  exact ⟨job, told, fair.settled (Record.mem_errands_iff.mp told.errand_mem)⟩

/-- A pass that is not itself broken off ends by its own answers. -/
theorem Fair.pass_conducted (fair : Fair (create gate settings sizes) schedule) {pass : Nat}
    {minute : MinuteOfDay} (unbroken : ∀ time, schedule time ≠ .crash pass)
    (begun : .begun pass (.pass minute) ∈
      ((create gate settings sizes).evolve schedule moment).2) :
    ∃ settled, ∀ later ≥ settled, ∃ outcome snapshot replies,
      Record.endings ((create gate settings sizes).evolve schedule later).2 pass =
          [some (.pass outcome)] ∧
        Record.answers ((create gate settings sizes).evolve schedule later).2 pass =
          ⟨.snapshot, snapshot⟩ :: replies ∧
        MinutePass.Conduct minute snapshot outcome replies := by
  obtain ⟨settled, ended⟩ := fair.settled begun
  refine ⟨max settled moment, fun later isLater => ?_⟩
  obtain ⟨ending, single⟩ := List.length_eq_one_iff.mp (ended later (by omega)).1
  have chronicle := chronicle_evolve gate settings sizes schedule later
  have told := (evolve_extends _ schedule (show moment ≤ later by omega)).subset begun
  have own := (chronicle.lives pass).errands_eq (Record.mem_errands_iff.mpr told)
  have member : ending ∈
      Record.endings ((create gate settings sizes).evolve schedule later).2 pass := by
    rw [single]
    exact List.mem_singleton_self _
  cases passEnding_of_mem own member with
  | conducted answers_eq conduct => exact ⟨_, _, _, single, answers_eq, conduct⟩
  | broken crash =>
      obtain ⟨time, -, same⟩ := List.mem_map.mp crash
      exact absurd same (unbroken time)

end Schedules

/-- Whatever fails for some users: every run keeps apart what belongs to different tasks;
a candidate that is treated alike makes the same calls in every two runs; every run can go
on fairly; and in a fair one all tasks end, the jobs of all accepted candidates among them,
and every pass that is not itself broken off by its own answers. -/
theorem failures_isolated (gate : Gate) (settings : Settings) (sizes : PoolSizes) :
    (∀ moves, Contained gate settings sizes moves) ∧
    (∀ moves settings' sizes' moves' job job' candidate snapshot treatment,
      let record : Record := ((create gate settings sizes).run moves).2
      let other : Record := ((create gate settings' sizes').run moves').2
      record.errands job = [.scheduled candidate snapshot] → record.Treated treatment job →
      other.errands job' = [.scheduled candidate snapshot] → other.Treated treatment job' →
      record.endings job ≠ [] → other.endings job' ≠ [] →
        record.calls job = other.calls job') ∧
    (∀ moves, ∃ schedule, (List.range moves.length).map schedule = moves ∧
      Fair (create gate settings sizes) schedule) ∧
    ∀ schedule, Fair (create gate settings sizes) schedule → ∀ moment,
      let record : Record := ((create gate settings sizes).evolve schedule moment).2
      (∀ number errand, .begun number errand ∈ record →
        Settled gate settings sizes schedule number) ∧
      (∀ pass candidate snapshot, ⟨.enqueue candidate snapshot, .ok ()⟩ ∈ record.answers pass →
        ∃ job, record.Queued pass candidate snapshot job ∧
          Settled gate settings sizes schedule job) ∧
      ∀ pass minute, .begun pass (.pass minute) ∈ record →
        (∀ time, schedule time ≠ .crash pass) →
          ∃ settled, ∀ later ≥ settled, ∃ outcome snapshot replies,
            Record.endings ((create gate settings sizes).evolve schedule later).2 pass =
                [some (.pass outcome)] ∧
              Record.answers ((create gate settings sizes).evolve schedule later).2 pass =
                ⟨.snapshot, snapshot⟩ :: replies ∧
              MinutePass.Conduct minute snapshot outcome replies := by
  refine ⟨contained_run gate settings sizes, ?_, exists_fair gate settings sizes, ?_⟩
  · intro moves settings' sizes' moves' job job' candidate snapshot treatment record other
      begun treated begun' treated' ended ended'
    exact calls_alike begun begun' treated treated' ended ended'
  · intro schedule fair moment record
    refine ⟨fun number errand begun => fair.settled begun, ?_, ?_⟩
    · intro pass candidate snapshot queued
      exact fair.candidate_settled queued
    · intro pass minute begun unbroken
      exact fair.pass_conducted unbroken begun

section Neighbours

def neighbour (number : Nat) : User :=
  ⟨Identifier.ofNat number, Identifier.ofNat 1, .active, false⟩

def neighbourSite (number : Nat) : UserSite :=
  ⟨Identifier.ofNat (10 * number), (neighbour number).id, "bank", none, false, .proceed⟩

/-- A pass at midnight has two candidates queued, as the jobs 1 and 2. -/
def neighboursQueued : List Move :=
  [.triggerPass (.ofInstant ⟨0, 0⟩), .start .pass 0, .advance 0,
    .call 0, .answer 0 ⟨.tenants, .ok [Identifier.ofNat 1]⟩,
    .call 0, .answer 0 ⟨.usersInRange (Identifier.ofNat 1) (Wheel.span 0 4),
      .ok [(neighbour 1).id, (neighbour 2).id]⟩,
    .advance 0, .advance 0, .advance 0]

/-- All goes well with a job. -/
def neighbourServed (job : Nat) : List Move :=
  let user := neighbour job
  [.start .dispatch job, .call job, .answer job ⟨.user user.id, .ok (some user)⟩,
    .call job, .answer job ⟨.sites user.id, .ok [neighbourSite job]⟩,
    .call job, .answer job ⟨.clock, ⟨0, 0⟩⟩,
    .call job, .answer job ⟨.credential user.tenantId user.id, .ok ⟨"token"⟩⟩,
    .call job, .answer job ⟨.refresh ⟨user.id, [neighbourSite job], false, ⟨"token"⟩, .schedule⟩,
      .ok ()⟩,
    .advance job, .advance job, .advance job]

/-- The first job breaks off at its first call, or goes well: the second one calls for the
same and ends, and the pool is as empty. -/
example :
    let trigger := create Gate.neededAction .default .default
    let broken := trigger.run
      (neighboursQueued ++ [.start .dispatch 1, .call 1, .crash 1] ++ neighbourServed 2)
    let well := trigger.run (neighboursQueued ++ neighbourServed 1 ++ neighbourServed 2)
    Record.calls broken.2 2 = Record.calls well.2 2 ∧
      Record.endings broken.2 1 = [none] ∧ Record.endings well.2 1 = [some .refreshed] ∧
      Record.endings broken.2 2 = [some .refreshed] ∧
      broken.1.dispatchPool.inFlight = 0 := by
  cbv

end Neighbours

end Trigger

end UnattendedRefresh
