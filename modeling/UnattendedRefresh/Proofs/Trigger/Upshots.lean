import UnattendedRefresh.Proofs.Trigger.Errands
import UnattendedRefresh.Proofs.Trigger.Shutdown

/-!
# Whose business a move is

Every errand has a lane of its own, whether its task came through the pool or was called
directly. A move that belongs to the work of a lane touches the pool of that lane, and a
pass that submits a candidate touches the dispatch pool besides; it touches no other.
-/

namespace UnattendedRefresh

open Function Procedure

namespace Lane

/-- Whether work of a lane can touch the pool of another: passes submit candidates. -/
def reaches : Lane → Lane → Bool
  | pass, lane => lane ≠ .forced
  | dispatch, lane => lane = .dispatch
  | forced, lane => lane = .forced

theorem reaches_self (lane : Lane) : lane.reaches lane = true := by
  cases lane <;> rfl

end Lane

namespace Errand

def lane : Errand → Lane
  | pass _ => .pass
  | scheduled _ _ => .dispatch
  | forced _ => .forced

end Errand

namespace Effect

def leaver? : Effect → Option Nat
  | ended number _ => some number
  | _ => none

def verdict? : Effect → Option (Except PoolFault Unit)
  | accepted _ _ => some (.ok ())
  | refused fault => some (.error fault)
  | _ => none

/-- Whether the effect tells nothing of a pool's answer and of an end. -/
def isMute : Effect → Bool
  | accepted _ _ => false
  | refused _ => false
  | ended _ _ => false
  | _ => true

theorem leavers_of_isMute {effects : List Effect}
    (mute : ∀ effect ∈ effects, effect.isMute = true) : effects.filterMap leaver? = [] := by
  rw [List.filterMap_eq_nil_iff]
  intro effect member
  have silent := mute effect member
  cases effect <;> simp_all [isMute, leaver?]

end Effect

namespace Trigger

variable {gate : Gate} {trigger after : Trigger} {record : Record} {number : Nat} {task : Task}
  {moment : Moment} {lane own : Lane} {effects : List Effect}

/-- The candidate that the task would submit if it went on. -/
def candidateErrand? (trigger : Trigger) (task : Task) : Option Errand :=
  match task.rest with
  | .ask (.enqueue candidate settings) _ =>
    if trigger.isMovable task then some (.scheduled candidate settings) else none
  | _ => none

/-- The errand that a moment submits to the pool of its lane, if it submits one. -/
def submission? (trigger : Trigger) : Moment → Option Errand
  | .move (.triggerPass minute) => some (.pass minute)
  | .move (.triggerForced userId) => some (.forced userId)
  | .move (.advance number) => (trigger.task? number).bind trigger.candidateErrand?
  | _ => none

def laneOf? (trigger : Trigger) (number : Nat) : Option Lane :=
  (trigger.task? number).map (·.errand.lane)

/-- The lane to whose work a moment belongs. What a shutdown does, and a replacement of
the settings, belong to none. -/
def concern? (trigger : Trigger) : Moment → Option Lane
  | .move (.triggerPass _) => some .pass
  | .move (.triggerForced _) => some .forced
  | .move (.runPass _) => some .pass
  | .move (.runForced _) => some .forced
  | .move (.start lane _) => some lane
  | .move (.advance number) => trigger.laneOf? number
  | .move (.call number) => trigger.laneOf? number
  | .move (.answer number _) => trigger.laneOf? number
  | .move (.crash number) => trigger.laneOf? number
  | _ => none

/-! ### Every task is in the lane of its errand -/

/-- Who holds a place in a pool is about the work of that pool. -/
def Fits (trigger : Trigger) : Prop :=
  ∀ number task, trigger.task? number = some task →
    ∀ lane, task.lane = some lane → task.errand.lane = lane

theorem fits_create (gate : Gate) (settings : Settings) (sizes : PoolSizes) :
    (create gate settings sizes).Fits := by
  simp [Fits, create, task?]

theorem Fits.congr (fits : trigger.Fits) (same : after.task? = trigger.task?) : after.Fits := by
  intro number task found
  exact fits number task (same ▸ found)

theorem Fits.of_update {entry : Option Task} (fits : trigger.Fits)
    (table : after.task? = update trigger.task? number entry)
    (fitting : ∀ task, entry = some task → ∀ lane, task.lane = some lane →
      task.errand.lane = lane) : after.Fits := by
  intro other task found
  rw [table] at found
  by_cases same : other = number
  · subst same
    exact fitting task (by simpa using found)
  · rw [update_of_ne same] at found
    exact fits other task found

theorem Fits.newcomer (fits : trigger.Fits) (sound : trigger.Sound) (pool : WorkerPool Nat)
    {errand : Errand} (own : errand.lane = lane) :
    ((trigger.setPool lane pool).addTask (some lane) errand).Fits := by
  refine fits.of_update (sound.newcomer lane pool errand).2 ?_
  rintro task ⟨⟩ other same
  exact own.trans (Option.some.inj same)

theorem Fits.resume (fits : trigger.Fits) (found : trigger.task? number = some task)
    (rest : Procedure Outcome) : (trigger.resumeTask number rest).Fits := by
  refine fits.of_update (task?_resumeTask found rest) ?_
  rintro resumed ⟨⟩
  exact fits number task found

theorem Fits.remove (fits : trigger.Fits) (found : trigger.task? number = some task) :
    (trigger.removeTask task).Fits :=
  fits.of_update (task?_removeTask found) (by simp)

theorem Fits.submitMove (fits : trigger.Fits) (sound : trigger.Sound) {errand : Errand}
    (own : errand.lane = lane) : (trigger.submitMove lane errand).1.Fits := by
  simp only [Trigger.submitMove, submit]
  cases (trigger.pool lane).submit trigger.next with
  | ok pool => exact fits.newcomer sound pool own
  | error fault => exact fits

theorem Fits.begin (fits : trigger.Fits) (sound : trigger.Sound) (errand : Errand) :
    (trigger.addTask none errand).Fits := by
  refine fits.of_update (task?_addTask sound none errand) ?_
  rintro task ⟨⟩ lane same
  simp at same

theorem Fits.withTask {act : Task → Trigger × List Effect} (fits : trigger.Fits)
    (each : ∀ task, trigger.task? task.number = some task → (act task).1.Fits) :
    (trigger.withTask number act).1.Fits := by
  simp only [Trigger.withTask]
  split
  next task found =>
    obtain rfl := number_of_task? found
    split
    next => exact each task found
    next => exact fits
  next => exact fits

theorem Fits.advanceTask (fits : trigger.Fits) (sound : trigger.Sound)
    (found : trigger.task? task.number = some task) : (trigger.advanceTask task).1.Fits := by
  simp only [Trigger.advanceTask]
  split
  next => exact fits.remove found
  next => exact fits.resume found _
  next question resume _ =>
    cases question with
    | snapshot => exact fits.resume found _
    | enqueue candidate settings =>
        simp only [answerInternally, submit]
        cases (trigger.pool .dispatch).submit trigger.next with
        | ok pool =>
            have still := sound.still_of_newcomer found .dispatch pool
              (.scheduled candidate settings)
            have joined : Errand.lane (.scheduled candidate settings) = .dispatch := rfl
            exact (fits.newcomer sound pool joined).resume still _
        | error fault => exact fits.resume found _
    | _ => exact fits

theorem Fits.callTask (fits : trigger.Fits) (found : trigger.task? task.number = some task) :
    (trigger.callTask task).1.Fits := by
  simp only [Trigger.callTask]
  split
  next =>
    split
    next => exact fits
    next =>
      refine fits.of_update (task?_await found) ?_
      rintro waiting ⟨⟩
      exact fits _ task found
  next => exact fits

theorem Fits.answerTask (fits : trigger.Fits) (found : trigger.task? task.number = some task)
    (reply : Reply) : (trigger.answerTask task reply).1.Fits := by
  simp only [Trigger.answerTask]
  split
  next =>
    split
    next => exact fits.resume found _
    next => exact fits
  next => exact fits

theorem Fits.advanceShutdown (fits : trigger.Fits) (number : Nat) :
    (trigger.advanceShutdown number).1.Fits := by
  apply fits.congr
  simp only [Trigger.advanceShutdown]
  split
  next => split <;> exact task?_congr rfl
  next => split <;> exact task?_congr rfl
  next => rfl

theorem Fits.happen (fits : trigger.Fits) (sound : trigger.Sound) (moment : Moment) :
    (trigger.happen moment).1.Fits := by
  cases moment with
  | closeDispatch number =>
      rw [Trigger.happen]
      rcases trigger.closeDispatch_eq number with same | ⟨-, same⟩
      · rwa [same]
      · rw [same]
        exact fits.congr (task?_congr rfl)
  | move move =>
      cases move with
      | triggerPass minute => exact fits.submitMove sound rfl
      | triggerForced userId => exact fits.submitMove sound rfl
      | runPass minute => exact fits.begin sound _
      | runForced userId => exact fits.begin sound _
      | start lane number =>
          apply fits.congr
          simp only [Trigger.happen, step, startMove]
          split <;> simp
      | advance number => exact fits.withTask fun task found => fits.advanceTask sound found
      | call number => exact fits.withTask fun task found => fits.callTask found
      | answer number reply => exact fits.withTask fun task found => fits.answerTask found reply
      | crash number => exact fits.withTask fun task found => fits.remove found
      | advanceShutdown number => exact fits.advanceShutdown number
      | replaceSettings settings => exact fits.congr (task?_congr rfl)
      | shutdown => exact fits.congr (task?_congr rfl)

/-! ### What a moment comes to for the pools -/

/-- What a moment does to the pools, with what was submitted and who has left. -/
inductive Upshot (trigger : Trigger) (moment : Moment) (after : Trigger) (effects : List Effect) :
    Prop where
  | still (none : trigger.submission? moment = none)
      (mute : ∀ effect ∈ effects, effect.isMute = true) (pool_eq : after.pool = trigger.pool)
  | taken {errand : Errand} {pool : WorkerPool Nat}
      (submitted : trigger.submission? moment = some errand)
      (taken : (trigger.pool errand.lane).submit trigger.next = .ok pool)
      (answered : effects.filterMap Effect.verdict? = [.ok ()])
      (unended : effects.filterMap Effect.leaver? = [])
      (pool_eq : after.pool = update trigger.pool errand.lane pool)
  | refused {errand : Errand} {fault : PoolFault}
      (submitted : trigger.submission? moment = some errand)
      (refused : (trigger.pool errand.lane).submit trigger.next = .error fault)
      (answered : effects.filterMap Effect.verdict? = [.error fault])
      (unended : effects.filterMap Effect.leaver? = []) (pool_eq : after.pool = trigger.pool)
  | started {lane : Lane} {job : Nat} {pool : WorkerPool Nat}
      (same : moment = .move (.start lane job))
      (taken : (trigger.pool lane).start? job = some pool)
      (mute : ∀ effect ∈ effects, effect.isMute = true)
      (pool_eq : after.pool = update trigger.pool lane pool)
  | ended {task : Task} (goes : trigger.Goes task) (none : trigger.submission? moment = none)
      (concern : trigger.concern? moment = some task.errand.lane)
      (left : effects.filterMap Effect.leaver? = [task.number])
      (pool_eq : after.pool = task.lane.elim trigger.pool fun lane =>
        update trigger.pool lane ((trigger.pool lane).finish task.number))
  | closed (nobody : trigger.concern? moment = none) (none : trigger.submission? moment = none)
      (mute : ∀ effect ∈ effects, effect.isMute = true)
      (closing : ∀ lane, after.pool lane = trigger.pool lane ∨
        after.pool lane = (trigger.pool lane).close)

theorem submitMove_upshot {errand : Errand} (own : errand.lane = lane)
    (submitted : trigger.submission? moment = some errand) :
    Upshot trigger moment (trigger.submitMove lane errand).1
      (trigger.submitMove lane errand).2 := by
  subst own
  simp only [submitMove, submit]
  cases answer : (trigger.pool errand.lane).submit trigger.next with
  | ok pool => exact .taken submitted answer rfl rfl (by simp)
  | error fault => exact .refused submitted answer rfl rfl rfl

theorem answerInternally_upshot {question : Question}
    {resume : question.Answer → Procedure Outcome} (goes : trigger.Goes task)
    (stands : task.rest = .ask question resume)
    (submits : trigger.submission? moment = trigger.candidateErrand? task) :
    Upshot trigger moment (trigger.answerInternally task question resume).1
      (trigger.answerInternally task question resume).2 := by
  cases question with
  | snapshot =>
      refine .still ?_ (by simp [answerInternally, Effect.isMute])
        (by simp [answerInternally])
      simp [submits, candidateErrand?, stands]
  | enqueue candidate settings =>
      have submitted : trigger.submission? moment = some (.scheduled candidate settings) := by
        simp [submits, candidateErrand?, stands, goes.movable]
      simp only [answerInternally, submit]
      cases answer : (trigger.pool .dispatch).submit trigger.next with
      | ok pool => exact .taken submitted answer rfl rfl (by simp [Errand.lane])
      | error fault => exact .refused submitted answer rfl rfl (by simp)
  | _ =>
      refine .still ?_ (by simp [answerInternally]) rfl
      simp [submits, candidateErrand?, stands]

theorem advance_upshot (trigger : Trigger) (number : Nat) :
    Upshot trigger (.move (.advance number)) (trigger.step (.advance number)).1
      (trigger.step (.advance number)).2 := by
  simp only [step, withTask]
  split
  next task found =>
    obtain rfl := number_of_task? found
    have submits : trigger.submission? (.move (.advance task.number)) =
        trigger.candidateErrand? task := by
      simp [submission?, found]
    split
    next movable =>
      have goes : trigger.Goes task := ⟨found, movable⟩
      simp only [advanceTask]
      split
      next outcome stands =>
        refine .ended goes ?_ ?_ rfl (pool_removeTask trigger task)
        · simp [submits, candidateErrand?, stands]
        · simp [concern?, laneOf?, found]
      next entry rest stands =>
        refine .still ?_ (by simp [Effect.isMute]) (by simp)
        simp [submits, candidateErrand?, stands]
      next question resume stands => exact answerInternally_upshot goes stands submits
    next idle =>
      refine .still ?_ (by simp) rfl
      rw [submits, candidateErrand?]
      split <;> simp [idle]
  next missing => exact .still (by simp [submission?, missing]) (by simp) rfl

theorem crash_upshot (trigger : Trigger) (number : Nat) :
    Upshot trigger (.move (.crash number)) (trigger.step (.crash number)).1
      (trigger.step (.crash number)).2 := by
  simp only [step, withTask]
  split
  next task found =>
    obtain rfl := number_of_task? found
    split
    next movable =>
      refine .ended ⟨found, movable⟩ rfl (by simp [concern?, laneOf?, found]) ?_
        (pool_removeTask trigger task)
      simp only [crashTask]
      split <;> rfl
    next => exact .still rfl (by simp) rfl
  next => exact .still rfl (by simp) rfl

/-- A task that only goes on, or does not, moves nobody. -/
theorem withTask_still {act : Task → Trigger × List Effect}
    (none : trigger.submission? moment = none)
    (each : ∀ task, (act task).1.pool = trigger.pool ∧
      ∀ effect ∈ (act task).2, effect.isMute = true) :
    Upshot trigger moment (trigger.withTask number act).1 (trigger.withTask number act).2 := by
  simp only [withTask]
  split
  next task _ =>
    split
    next => exact .still none (each task).2 (each task).1
    next => exact .still none (by simp) rfl
  next => exact .still none (by simp) rfl

theorem call_upshot (trigger : Trigger) (number : Nat) :
    Upshot trigger (.move (.call number)) (trigger.step (.call number)).1
      (trigger.step (.call number)).2 := by
  refine withTask_still rfl fun task => ?_
  simp only [callTask]
  split
  next =>
    split
    next => simp
    next => exact ⟨pool_congr rfl rfl rfl, by simp [Effect.isMute]⟩
  next => simp

theorem answer_upshot (trigger : Trigger) (number : Nat) (reply : Reply) :
    Upshot trigger (.move (.answer number reply)) (trigger.step (.answer number reply)).1
      (trigger.step (.answer number reply)).2 := by
  refine withTask_still rfl fun task => ?_
  simp only [answerTask]
  split
  next => split <;> simp [Effect.isMute]
  next => simp

theorem start_upshot (trigger : Trigger) (lane : Lane) (job : Nat) :
    Upshot trigger (.move (.start lane job)) (trigger.step (.start lane job)).1
      (trigger.step (.start lane job)).2 := by
  simp only [step, startMove]
  split
  next pool taken =>
    exact .started rfl taken (by simp [Effect.isMute]) (by simp)
  next => exact .still rfl (by simp) rfl

theorem advanceShutdown_upshot (trigger : Trigger) (number : Nat) :
    Upshot trigger (.move (.advanceShutdown number)) (trigger.step (.advanceShutdown number)).1
      (trigger.step (.advanceShutdown number)).2 := by
  simp only [step, advanceShutdown]
  split
  next =>
    split
    next => exact .closed rfl rfl (by simp) fun lane => by cases lane <;> simp [pool]
    next => exact .still rfl (by simp) rfl
  next =>
    split
    next =>
      exact .still rfl (by simp [Effect.isMute])
        (pool_congr rfl rfl rfl)
    next => exact .still rfl (by simp) rfl
  next => exact .still rfl (by simp) rfl

theorem happen_upshot (trigger : Trigger) (moment : Moment) :
    Upshot trigger moment (trigger.happen moment).1 (trigger.happen moment).2 := by
  cases moment with
  | closeDispatch number =>
      rw [happen]
      rcases trigger.closeDispatch_eq number with same | ⟨-, same⟩
      · rw [same]
        exact .still rfl (by simp) rfl
      · rw [same]
        exact .closed rfl rfl (by simp) fun lane => by cases lane <;> simp [pool]
  | move move =>
      cases move with
      | triggerPass minute => exact submitMove_upshot rfl rfl
      | triggerForced userId => exact submitMove_upshot rfl rfl
      | runPass minute =>
          exact .still rfl (by simp [happen, step, beginMove, Effect.isMute])
            (pool_addTask trigger none _)
      | runForced userId =>
          exact .still rfl (by simp [happen, step, beginMove, Effect.isMute])
            (pool_addTask trigger none _)
      | start lane job => exact start_upshot trigger lane job
      | advance number => exact advance_upshot trigger number
      | call number => exact call_upshot trigger number
      | answer number reply => exact answer_upshot trigger number reply
      | crash number => exact crash_upshot trigger number
      | advanceShutdown number => exact advanceShutdown_upshot trigger number
      | replaceSettings settings =>
          exact .still rfl (by simp [happen, step]) (pool_congr rfl rfl rfl)
      | shutdown =>
          refine .closed rfl rfl (by simp [happen, step]) fun lane => ?_
          cases lane <;> simp [happen, step, pool]

/-! ### Which pools a moment touches -/

/-- Only a pass submits to a lane that is not its own. -/
theorem reaches_of_submission {errand : Errand} (chronicle : Chronicle gate trigger record)
    (concern : trigger.concern? moment = some own)
    (submitted : trigger.submission? moment = some errand) : own.reaches errand.lane = true := by
  cases moment with
  | closeDispatch number => simp [submission?] at submitted
  | move move =>
      cases move with
      | triggerPass minute =>
          obtain rfl := Option.some.inj concern
          obtain rfl := Option.some.inj submitted
          rfl
      | triggerForced userId =>
          obtain rfl := Option.some.inj concern
          obtain rfl := Option.some.inj submitted
          rfl
      | advance number =>
          obtain ⟨task, found, submits⟩ := Option.bind_eq_some_iff.mp submitted
          obtain rfl : task.errand.lane = own := by simpa [concern?, laneOf?, found] using concern
          simp only [candidateErrand?] at submits
          split at submits
          next candidate settings onward stands =>
            obtain rfl : .scheduled candidate settings = errand :=
              (Option.ite_none_right_eq_some.mp submits).2 |> Option.some.inj
            have stood := standing_of_task? found
            rw [stands] at stood
            obtain ⟨minute, pass⟩ := Errand.pass_of_enqueue (chronicle.underWay stood).2.2
            rw [pass]
            rfl
          next => simp at submits
      | _ => simp [submission?] at submitted

/-- A moment of the work of one lane leaves the pools alone that this work does not reach. -/
theorem pool_eq_of_concern (chronicle : Chronicle gate trigger record) (fits : trigger.Fits)
    (concern : trigger.concern? moment = some own) (apart : own.reaches lane = false) :
    (trigger.happen moment).1.pool lane = trigger.pool lane := by
  have different {other : Lane} (reached : own.reaches other = true) : lane ≠ other := by
    rintro rfl
    simp [apart] at reached
  cases trigger.happen_upshot moment with
  | still none mute pool_eq => rw [pool_eq]
  | taken submitted taken answered unended pool_eq =>
      rw [pool_eq, update_of_ne (different (reaches_of_submission chronicle concern submitted))]
  | refused submitted refused answered unended pool_eq => rw [pool_eq]
  | started same taken mute pool_eq =>
      subst same
      obtain rfl := Option.some.inj concern
      rw [pool_eq, update_of_ne (different (Lane.reaches_self _))]
  | @ended task goes none concerned left pool_eq =>
      obtain rfl := Option.some.inj (concerned.symm.trans concern)
      rw [pool_eq]
      cases seated : task.lane with
      | none => rfl
      | some taker =>
          obtain rfl := fits _ task goes.found taker seated
          exact update_of_ne (different (Lane.reaches_self _)) _ _
  | closed nobody => simp [nobody] at concern

end Trigger

end UnattendedRefresh
