import UnattendedRefresh.Proofs.Trigger.Tasks

/-!
# What one move comes to

A move changes nothing or comes to one of a few deeds, each with the guard it passed
and the effects that tell of it. What a move does to the tasks, to the pools and to the
contact with the collaborators is read off the deed.
-/

namespace UnattendedRefresh

namespace Trigger

variable {trigger : Trigger} {number : Nat} {task : Task}

/-- The task is on the table, and a worker runs it if a pool took it. -/
structure Goes (trigger : Trigger) (task : Task) : Prop where
  found : trigger.task? task.number = some task
  movable : trigger.isMovable task = true

/-- What can come of a move that replaces no settings. -/
inductive Deed (trigger : Trigger) : Trigger → List Effect → Prop where
  | nothing : Deed trigger trigger []
  | refused {lane : Lane} {fault : PoolFault}
      (refuses : (trigger.pool lane).submit trigger.next = .error fault) :
      Deed trigger trigger [.refused fault]
  | admitted {lane : Lane} {errand : Errand} {pool : WorkerPool Nat}
      (direct : ∀ candidate settings, errand ≠ .scheduled candidate settings)
      (taken : (trigger.pool lane).submit trigger.next = .ok pool) :
      Deed trigger ((trigger.setPool lane pool).addTask (some lane) errand)
        [.begun trigger.next errand, .accepted trigger.next lane]
  | begun {errand : Errand}
      (direct : ∀ candidate settings, errand ≠ .scheduled candidate settings) :
      Deed trigger (trigger.addTask none errand)
        [.begun trigger.next errand, .started trigger.next]
  | started {lane : Lane} {job : Nat} {pool : WorkerPool Nat}
      (taken : (trigger.pool lane).start? job = some pool) :
      Deed trigger (trigger.setPool lane pool) [.started job]
  | wrote {task : Task} {entry : Journal.Entry} {rest : Procedure Outcome}
      (goes : trigger.Goes task) (stands : task.rest = .report entry rest) :
      Deed trigger (trigger.resumeTask task.number rest) [.reported task.number entry]
  | showed {task : Task} {resume : Settings → Procedure Outcome}
      (goes : trigger.Goes task) (stands : task.rest = .ask .snapshot resume) :
      Deed trigger (trigger.resumeTask task.number (resume trigger.settings))
        [.answered task.number ⟨.snapshot, trigger.settings⟩]
  | queued {task : Task} {candidate : Candidate} {settings : Settings}
      {resume : Except PoolFault Unit → Procedure Outcome} {pool : WorkerPool Nat}
      (goes : trigger.Goes task) (stands : task.rest = .ask (.enqueue candidate settings) resume)
      (taken : (trigger.pool .dispatch).submit trigger.next = .ok pool) :
      Deed trigger
        (((trigger.setPool .dispatch pool).addTask (some .dispatch)
          (.scheduled candidate settings)).resumeTask task.number (resume (.ok ())))
        [.answered task.number ⟨.enqueue candidate settings, .ok ()⟩,
          .begun trigger.next (.scheduled candidate settings), .accepted trigger.next .dispatch]
  | turnedAway {task : Task} {candidate : Candidate} {settings : Settings}
      {resume : Except PoolFault Unit → Procedure Outcome} {fault : PoolFault}
      (goes : trigger.Goes task) (stands : task.rest = .ask (.enqueue candidate settings) resume)
      (refuses : (trigger.pool .dispatch).submit trigger.next = .error fault) :
      Deed trigger (trigger.resumeTask task.number (resume (.error fault)))
        [.answered task.number ⟨.enqueue candidate settings, .error fault⟩, .refused fault]
  | called {task : Task} {question : Question} {resume : question.Answer → Procedure Outcome}
      (goes : trigger.Goes task) (stands : task.rest = .ask question resume)
      (external : question.isInternal = false) (idle : task.awaiting = false) :
      Deed trigger
        { trigger with
          tasks := trigger.tasks.map fun other =>
            if other.number = task.number then { other with awaiting := true } else other }
        [.called task.number question]
  | answered {task : Task} (reply : Reply) {resume : reply.question.Answer → Procedure Outcome}
      (goes : trigger.Goes task) (stands : task.rest = .ask reply.question resume)
      (waits : task.awaiting = true) :
      Deed trigger (trigger.resumeTask task.number (resume reply.answer))
        [.answered task.number reply]
  | ended {task : Task} {outcome : Outcome}
      (goes : trigger.Goes task) (stands : task.rest = .done outcome) :
      Deed trigger (trigger.removeTask task) [.ended task.number (some outcome)]
  | crashed {task : Task} {notes : List Effect} (goes : trigger.Goes task)
      (noted : ∀ effect ∈ notes,
        effect = .reported task.number (Journal.note .error "Pool job panicked")) :
      Deed trigger (trigger.removeTask task) (notes ++ [.ended task.number none])
  | closedPasses :
      Deed trigger
        { trigger with
          passPool := trigger.passPool.close
          shutdowns := trigger.shutdowns ++ [(trigger.next, .drainingPasses)]
          next := trigger.next + 1 }
        []
  | closedRefreshes (call : Nat) (drained : trigger.passPool.isDrained = true) :
      Deed trigger
        { trigger with
          dispatchPool := trigger.dispatchPool.close
          forcedPool := trigger.forcedPool.close
          shutdowns := trigger.shutdowns.map fun shutdown =>
            if shutdown.1 = call then (call, .drainingRefreshes) else shutdown }
        []
  | drained {call : Nat} (waited : (call, .drainingRefreshes) ∈ trigger.shutdowns)
      (dispatch : trigger.dispatchPool.isDrained = true)
      (forced : trigger.forcedPool.isDrained = true) :
      Deed trigger { trigger with shutdowns := trigger.shutdowns.filter (·.1 ≠ call) }
        [.drained call]

theorem submitMove_deed (trigger : Trigger) (lane : Lane) {errand : Errand}
    (direct : ∀ candidate settings, errand ≠ .scheduled candidate settings) :
    Deed trigger (trigger.submitMove lane errand).1 (trigger.submitMove lane errand).2 := by
  simp only [submitMove, submit]
  cases answer : (trigger.pool lane).submit trigger.next with
  | ok pool => exact .admitted direct answer
  | error fault => exact .refused answer

theorem startMove_deed (trigger : Trigger) (lane : Lane) (number : Nat) :
    Deed trigger (trigger.startMove lane number).1 (trigger.startMove lane number).2 := by
  simp only [startMove]
  split
  next pool taken => exact .started taken
  next => exact .nothing

theorem answerInternally_deed (goes : trigger.Goes task) {question : Question}
    {resume : question.Answer → Procedure Outcome} (stands : task.rest = .ask question resume) :
    Deed trigger (trigger.answerInternally task question resume).1
      (trigger.answerInternally task question resume).2 := by
  cases question with
  | snapshot => exact .showed goes stands
  | enqueue candidate settings =>
      simp only [answerInternally, submit]
      cases answer : (trigger.pool .dispatch).submit trigger.next with
      | ok pool => exact .queued goes stands answer
      | error fault => exact .turnedAway goes stands answer
  | _ => exact .nothing

theorem advanceTask_deed (goes : trigger.Goes task) :
    Deed trigger (trigger.advanceTask task).1 (trigger.advanceTask task).2 := by
  simp only [advanceTask]
  split
  next outcome stands => exact .ended goes stands
  next entry rest stands => exact .wrote goes stands
  next question resume stands => exact answerInternally_deed goes stands

theorem callTask_deed (goes : trigger.Goes task) :
    Deed trigger (trigger.callTask task).1 (trigger.callTask task).2 := by
  simp only [callTask]
  split
  next question resume stands =>
    split
    next => exact .nothing
    next open_ =>
      obtain ⟨external, idle⟩ : question.isInternal = false ∧ task.awaiting = false := by
        simpa using open_
      exact .called goes stands external idle
  next => exact .nothing

theorem answerTask_deed (goes : trigger.Goes task) (reply : Reply) :
    Deed trigger (trigger.answerTask task reply).1 (trigger.answerTask task reply).2 := by
  simp only [answerTask]
  split
  next question resume stands =>
    split
    next fits =>
      obtain ⟨rfl, waits⟩ := fits
      exact .answered reply goes stands waits
    next => exact .nothing
  next => exact .nothing

theorem crashTask_deed (goes : trigger.Goes task) :
    Deed trigger (trigger.crashTask task).1 (trigger.crashTask task).2 := by
  refine .crashed goes ?_
  split <;> simp

theorem withTask_deed {act : Task → Trigger × List Effect}
    (each : ∀ task, trigger.Goes task → Deed trigger (act task).1 (act task).2) :
    Deed trigger (trigger.withTask number act).1 (trigger.withTask number act).2 := by
  simp only [withTask]
  split
  next task found =>
    obtain rfl := number_of_task? found
    split
    next movable => exact each task ⟨found, movable⟩
    next => exact .nothing
  next => exact .nothing

theorem advanceShutdown_deed (trigger : Trigger) (number : Nat) :
    Deed trigger (trigger.advanceShutdown number).1 (trigger.advanceShutdown number).2 := by
  simp only [advanceShutdown]
  split
  next =>
    split
    next drained => exact .closedRefreshes number drained
    next => exact .nothing
  next call found =>
    split
    next drained =>
      obtain ⟨dispatch, forced⟩ := Bool.and_eq_true_iff.mp drained
      obtain rfl : call = number := by simpa using List.find?_some found
      exact .drained (List.mem_of_find?_eq_some found) dispatch forced
    next => exact .nothing
  next => exact .nothing

/-- Every move replaces the settings or comes to a deed. -/
theorem replaced_or_deed (trigger : Trigger) (move : Move) :
    (∃ settings, move = .replaceSettings settings) ∨
      Deed trigger (trigger.step move).1 (trigger.step move).2 := by
  cases move with
  | replaceSettings settings => exact Or.inl ⟨settings, rfl⟩
  | triggerPass minute => exact Or.inr (submitMove_deed trigger .pass (by simp))
  | triggerForced userId => exact Or.inr (submitMove_deed trigger .forced (by simp))
  | runPass minute => exact Or.inr (.begun (by simp))
  | runForced userId => exact Or.inr (.begun (by simp))
  | start lane number => exact Or.inr (startMove_deed trigger lane number)
  | advance number => exact Or.inr (withTask_deed fun task goes => advanceTask_deed goes)
  | call number => exact Or.inr (withTask_deed fun task goes => callTask_deed goes)
  | answer number reply =>
      exact Or.inr (withTask_deed fun task goes => answerTask_deed goes reply)
  | crash number => exact Or.inr (withTask_deed fun task goes => crashTask_deed goes)
  | shutdown => exact Or.inr .closedPasses
  | advanceShutdown number => exact Or.inr (advanceShutdown_deed trigger number)

end Trigger

end UnattendedRefresh
